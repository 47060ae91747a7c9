import Dialogue.Proofs.Json.Printed
import Dialogue.Proofs.Tool.History

/-!
# What the arithmetic tools compute

A sum or product is the integer it is in mathematics, or the call fails: nothing is wrapped around
and nothing is rounded. The operations differ only in what they make of two integers of 64 bits; how
a call comes to two such integers is the same for each of them, and `Calculates` says it.

Main statement: `execute_exact`. Its parts are `operand_eq_ok_iff` (one operand), `onOperands_cases`
(both), and `calculates` (a call in a toolbox).
-/

namespace Dialogue.Arithmetic

open Tool (Fits Lacks)

variable {ω : Type} {c : Call} {m n : Int} {ms : Members} {name : String}
  {f : Int → Int → Except String Json}

/-! ## Operands -/

/-- Arguments whose `a` and `b` are these integers of 64 bits. -/
def Operands (arguments : Json) (m n : Int) : Prop :=
  fits m ∧ fits n ∧ arguments.get? "a" = some (.ofInt m) ∧ arguments.get? "b" = some (.ofInt n)

theorem Operands.unique {arguments : Json} {m' n' : Int} (h : Operands arguments m n)
    (h' : Operands arguments m' n') : m = m' ∧ n = n' := by
  have ha := Option.some.inj (h.2.2.1.symm.trans h'.2.2.1)
  have hb := Option.some.inj (h.2.2.2.symm.trans h'.2.2.2)
  simp only [Json.ofInt, Json.num.injEq, Number.int.injEq] at ha hb
  exact ⟨ha, hb⟩

/-- Arguments with operands are an object that has both. -/
theorem Operands.fits {arguments : Json} (h : Operands arguments m n) :
    Fits ["a", "b"] arguments := by
  obtain ⟨-, -, ha, hb⟩ := h
  obtain ⟨ms, hms, hlookup⟩ := Option.bind_eq_some_iff.mp ha
  obtain rfl := Json.members?_eq_some_iff.mp hms
  have hmem {name : String} {v : Json} (hv : (Json.obj ms).get? name = some v) :
      name ∈ ms.map (·.1) := by
    refine Decidable.not_not.mp fun hnot => ?_
    cases (Table.lookup_eq_none_iff.mpr hnot).symm.trans hv
  refine ⟨ms, rfl, fun name hname => ?_⟩
  simp only [List.mem_cons, List.not_mem_nil, or_false] at hname
  rcases hname with rfl | rfl
  · exact hmem ha
  · exact hmem hb

/-- An operand is an integer number; a floating point number is none, whatever its value. -/
theorem operand_eq_ok_iff :
    operand name ms = .ok n ↔ fits n ∧ Table.lookup name ms = some (.ofInt n) := by
  have hint (v : Json) : v.int? = some n ↔ v = .ofInt n := by
    cases v with
    | num k => cases k <;> simp [Json.int?, Json.ofInt]
    | _ => simp [Json.int?, Json.ofInt]
  have hfound : (Table.lookup name ms).bind Json.int? = some n ↔
      Table.lookup name ms = some (.ofInt n) := by
    simp only [Option.bind_eq_some_iff, hint, exists_eq_right]
  rw [← hfound, operand]
  split
  · next k hk =>
    by_cases hfits : fits k
    · rw [if_pos hfits, hk, Except.ok.injEq, Option.some.injEq]
      exact ⟨fun h => ⟨h ▸ hfits, h⟩, fun h => h.2⟩
    · rw [if_neg hfits, hk, Option.some.injEq]
      exact ⟨fun h => (nomatch h), fun ⟨hn, h⟩ => absurd (h ▸ hn) hfits⟩
  · next hnone => simp [hnone]

/-- What an operation makes of an argument object: its operands are read one after the other. -/
def onOperands (f : Int → Int → Except String Json) (arguments : Members) : Except String Json := do
  let a ← operand "a" arguments
  let b ← operand "b" arguments
  f a b

/-- An argument object has operands, which the operation is given, or it has none and the operation
fails. -/
theorem onOperands_cases (f : Int → Int → Except String Json) (ms : Members) :
    (∃ m n, Operands (.obj ms) m n ∧ onOperands f ms = f m n) ∨
      (∀ m n, ¬Operands (.obj ms) m n) ∧ ∃ reason, onOperands f ms = .error reason := by
  rcases ha : operand "a" ms with e | m
  · refine .inr ⟨fun m n ⟨hm, _, hget, _⟩ => ?_, e, by rw [onOperands, ha]; rfl⟩
    cases ha.symm.trans (operand_eq_ok_iff.mpr ⟨hm, hget⟩)
  · rcases hb : operand "b" ms with e | n
    · refine .inr ⟨fun m n ⟨_, hn, _, hget⟩ => ?_, e, by rw [onOperands, ha, hb]; rfl⟩
      cases hb.symm.trans (operand_eq_ok_iff.mpr ⟨hn, hget⟩)
    · obtain ⟨hm, hgetA⟩ := operand_eq_ok_iff.mp ha
      obtain ⟨hn, hgetB⟩ := operand_eq_ok_iff.mp hb
      exact .inl ⟨m, n, ⟨hm, hn, hgetA, hgetB⟩, by rw [onOperands, ha, hb]; rfl⟩

/-! ## Calls -/

/-- What comes of a call of an operation `f` on two integers. -/
inductive Calculates (f : Int → Int → Except String Json) (c : Call) :
    Except Failure Observation → Prop where
  | unfit {detail : String} : Lacks ["a", "b"] c detail →
      Calculates f c (.error (.badArguments detail))
  | noOperands {detail : String} : Fits ["a", "b"] c.arguments →
      (∀ m n, ¬Operands c.arguments m n) → Calculates f c (.error (.toolFailed detail))
  | fails {m n : Int} {reason : String} : Operands c.arguments m n → f m n = .error reason →
      Calculates f c (.error (.toolFailed (c.name ++ ": " ++ reason)))
  | yields {m n : Int} {v : Json} : Operands c.arguments m n → f m n = .ok v →
      Calculates f c (.ok (.ofValue c.name v))

/-- A call of an operation in a toolbox that has it under its name. -/
theorem calculates {b : Toolbox ω} {description : String} (hname : c.name = name)
    (hget : b.get? name = some (.ofFunction (signature name description) (onOperands f))) (w : ω) :
    Calculates f c (b.execute c w).1 := by
  subst hname
  rcases b.refuses_or_runs c with ⟨e, hrefuses⟩ | ⟨t, ht, hcheck, hrun⟩
  · rw [hrefuses.execute w]
    cases hrefuses with
    | notFound hnone => cases hnone.symm.trans hget
    | unfit hsome hcheck =>
      obtain rfl := Option.some.inj (hsome.symm.trans hget)
      obtain ⟨detail, rfl, hlacks⟩ := Tool.check_eq_error_iff.mp hcheck
      exact .unfit hlacks
  · obtain rfl := Option.some.inj (ht.symm.trans hget)
    have hfits : Fits ["a", "b"] c.arguments := Tool.check_eq_ok_iff.mp hcheck
    -- The check has been passed, so what the function is given are the members of an object.
    obtain ⟨ms, hms, -⟩ := Tool.check_eq_ok_iff.mp hcheck
    have hmembers : c.arguments.members?.getD [] = ms := by
      rw [hms]
      rfl
    rw [hrun w]
    simp only [Tool.ofFunction, hmembers]
    rcases onOperands_cases f ms with ⟨m, n, hoperands, heq⟩ | ⟨hnone, reason, heq⟩
    · rw [← hms] at hoperands
      rcases hf : f m n with reason | v
      · rw [heq, hf]
        exact .fails hoperands hf
      · rw [heq, hf]
        exact .yields hoperands hf
    · rw [heq]
      rw [← hms] at hnone
      exact .noOperands hfits hnone

namespace Calculates

variable {r : Except Failure Observation}

theorem eq_ok_iff {o : Observation} (h : Calculates f c r) :
    r = .ok o ↔ ∃ m n v, Operands c.arguments m n ∧ f m n = .ok v ∧ o = .ofValue c.name v := by
  constructor
  · rintro rfl
    cases h with
    | yields hoperands hf => exact ⟨_, _, _, hoperands, hf, rfl⟩
  · rintro ⟨m, n, v, hoperands, hf, rfl⟩
    cases h with
    | unfit hlacks => exact absurd hoperands.fits hlacks.not_fits
    | noOperands _ hnone => exact absurd hoperands (hnone m n)
    | fails hoperands' hf' =>
      obtain ⟨rfl, rfl⟩ := hoperands.unique hoperands'
      cases hf.symm.trans hf'
    | yields hoperands' hf' =>
      obtain ⟨rfl, rfl⟩ := hoperands.unique hoperands'
      cases hf.symm.trans hf'
      rfl

theorem eq_badArguments_iff (h : Calculates f c r) :
    (∃ detail, r = .error (.badArguments detail)) ↔ ¬Fits ["a", "b"] c.arguments := by
  cases h with
  | unfit hlacks => exact iff_of_true ⟨_, rfl⟩ hlacks.not_fits
  | noOperands hfits _ => exact iff_of_false (by simp) (not_not_intro hfits)
  | fails hoperands _ => exact iff_of_false (by simp) (not_not_intro hoperands.fits)
  | yields hoperands _ => exact iff_of_false (by simp) (not_not_intro hoperands.fits)

/-- A call fails if it has its arguments, but no operands of which the operation has a value. -/
theorem eq_toolFailed_iff (h : Calculates f c r) :
    (∃ detail, r = .error (.toolFailed detail)) ↔
      Fits ["a", "b"] c.arguments ∧ ∀ m n v, Operands c.arguments m n → f m n ≠ .ok v := by
  cases h with
  | unfit hlacks => exact iff_of_false (by simp) fun h => hlacks.not_fits h.1
  | noOperands hfits hnone =>
    exact iff_of_true ⟨_, rfl⟩ ⟨hfits, fun m n _ hoperands => absurd hoperands (hnone m n)⟩
  | fails hoperands hf =>
    refine iff_of_true ⟨_, rfl⟩ ⟨hoperands.fits, fun m n v hoperands' hf' => ?_⟩
    obtain ⟨rfl, rfl⟩ := hoperands.unique hoperands'
    cases hf.symm.trans hf'
  | yields hoperands hf => exact iff_of_false (by simp) fun h => h.2 _ _ _ hoperands hf

end Calculates

/-! ## Exact results -/

theorem exact_eq_ok_iff {k : Int} {v : Json} : exact k = .ok v ↔ fits k ∧ v = .ofInt k := by
  by_cases hfits : fits k
  · simp [exact, hfits, eq_comm]
  · simp [exact, hfits]

theorem ofValue_ofInt (name : String) (k : Int) :
    Observation.ofValue name (.ofInt k) = ⟨name, toString k, some (.ofInt k)⟩ := by
  rw [← Json.render_ofInt]
  rfl

/-- The operations with exact results, each under the name of its tool. -/
inductive Operates : String → (Int → Int → Int) → Prop where
  | add : Operates "add" fun m n => m + n
  | multiply : Operates "multiply" fun m n => m * n

/-- The quotient of two integers, as the tool gives it: only division by zero has none. -/
def divided (m n : Int) : Except String Json :=
  if n = 0 then .error "division by zero"
  else
    match (Binary64.ofInt m).div? (Binary64.ofInt n) with
    | some q => .ok (.num (.float q))
    | none => .ok .null

theorem exists_divided_eq_ok_iff : (∃ v, divided m n = .ok v) ↔ n ≠ 0 := by
  unfold divided
  by_cases hzero : n = 0
  · simp [hzero]
  · rw [if_neg hzero]
    refine iff_of_true ?_ hzero
    split
    · exact ⟨_, rfl⟩
    · exact ⟨_, rfl⟩

/-- Changes of the toolbox of the arithmetic tools leave each of them under its name. -/
theorem get?_changeAll {t : Tool ω} (ht : t ∈ (toolbox : Toolbox ω).tools)
    (changes : List (Change ω)) : (toolbox.changeAll changes).get? t.name = some t := by
  obtain ⟨added, -, hperm⟩ := (toolbox : Toolbox ω).exists_addsAll changes
  exact (Toolbox.built_arithmetic.changeAll changes).get?_eq_some
    (hperm.mem_iff.mpr (List.mem_append_left added ht))

theorem calculates_of_operates {op : Int → Int → Int} (hop : Operates c.name op)
    (changes : List (Change ω)) (w : ω) :
    Calculates (fun m n => exact (op m n)) c ((toolbox.changeAll changes).execute c w).1 := by
  generalize hname : c.name = name at hop
  cases hop with
  | add => exact calculates hname (get?_changeAll (t := add) (by simp [toolbox]) changes) w
  | multiply =>
    exact calculates hname (get?_changeAll (t := multiply) (by simp [toolbox]) changes) w

theorem calculates_divided (hname : c.name = "divide") (changes : List (Change ω)) (w : ω) :
    Calculates divided c ((toolbox.changeAll changes).execute c w).1 :=
  calculates hname (get?_changeAll (t := divide) (by simp [toolbox]) changes) w

/-- **Sums and products are exact.** Take any changes of the toolbox of the arithmetic tools, and a
call of `add` or `multiply`, whatever its arguments are. It succeeds if and only if `a` and `b` are
integers of 64 bits and so is their sum or product; its data then is this integer, and its output
the decimal text of it. The arguments are refused if and only if they are no object that has `a` and
`b`, and the call fails in every other case. A quotient is had of all such `a` and `b` where `b` is
not zero. -/
theorem execute_exact (changes : List (Change ω)) (c : Call) (w : ω) :
    let result := ((toolbox.changeAll changes).execute c w).1
    (∀ op, Operates c.name op →
      (∀ o, result = .ok o ↔ ∃ m n, Operands c.arguments m n ∧ fits (op m n) ∧
        o = ⟨c.name, toString (op m n), some (.ofInt (op m n))⟩) ∧
      ((∃ detail, result = .error (.badArguments detail)) ↔ ¬Fits ["a", "b"] c.arguments) ∧
      ((∃ detail, result = .error (.toolFailed detail)) ↔
        Fits ["a", "b"] c.arguments ∧ ∀ m n, Operands c.arguments m n → ¬fits (op m n))) ∧
    (c.name = "divide" →
      ((∃ o, result = .ok o) ↔ ∃ m n, Operands c.arguments m n ∧ n ≠ 0)) := by
  intro result
  refine ⟨fun op hop => ?_, fun hdivide => ?_⟩
  · have h := calculates_of_operates hop changes w
    refine ⟨fun o => ?_, h.eq_badArguments_iff, ?_⟩
    · rw [h.eq_ok_iff]
      constructor
      · rintro ⟨m, n, v, hoperands, hexact, rfl⟩
        obtain ⟨hfits, rfl⟩ := exact_eq_ok_iff.mp hexact
        exact ⟨m, n, hoperands, hfits, ofValue_ofInt _ _⟩
      · rintro ⟨m, n, hoperands, hfits, rfl⟩
        exact ⟨m, n, _, hoperands, exact_eq_ok_iff.mpr ⟨hfits, rfl⟩, (ofValue_ofInt _ _).symm⟩
    · rw [h.eq_toolFailed_iff]
      refine and_congr_right fun _ => forall₂_congr fun m n => ?_
      constructor
      · exact fun hall hoperands hfits =>
          hall _ hoperands (exact_eq_ok_iff.mpr ⟨hfits, rfl⟩)
      · exact fun hnot v hoperands hexact =>
          hnot hoperands (exact_eq_ok_iff.mp hexact).1
  · have h := calculates_divided hdivide changes w
    constructor
    · rintro ⟨o, ho⟩
      obtain ⟨m, n, v, hoperands, hv, -⟩ := h.eq_ok_iff.mp ho
      exact ⟨m, n, hoperands, exists_divided_eq_ok_iff.mp ⟨v, hv⟩⟩
    · rintro ⟨m, n, hoperands, hzero⟩
      obtain ⟨v, hv⟩ := exists_divided_eq_ok_iff.mpr hzero
      exact ⟨_, h.eq_ok_iff.mpr ⟨m, n, v, hoperands, hv, rfl⟩⟩

/-- The call of an operation on two numbers. -/
def call (name : String) (a b : Number) : Call :=
  ⟨"c", name, .obj [("a", .num a), ("b", .num b)]⟩

theorem operands_call_iff {a b : Number} :
    Operands (call name a b).arguments m n ↔ fits m ∧ fits n ∧ a = .int m ∧ b = .int n := by
  have ha : (call name a b).arguments.get? "a" = some (.num a) := by cbv
  have hb : (call name a b).arguments.get? "b" = some (.num b) := by cbv
  rw [Operands, ha, hb]
  simp [Json.ofInt]

/-- The greatest sum there is, a product that is too great by one, and an operand that is a whole
number but no integer. -/
theorem execute_exact_edges :
    let b := (toolbox : Toolbox Unit).changeAll [.register (Toolbox.herald "x")]
    (b.execute (call "add" (.int 0x7ffffffffffffffe) (.int 1)) ()).1 =
      .ok ⟨"add", "9223372036854775807", some (.ofInt 0x7fffffffffffffff)⟩ ∧
    (∃ detail, (b.execute (call "multiply" (.int 0x80000000) (.int 0x100000000)) ()).1 =
      .error (.toolFailed detail)) ∧
    ¬∃ o, (b.execute (call "divide" (.int 1) (.float (Binary64.ofInt 2))) ()).1 = .ok o := by
  intro b
  have hadd := (execute_exact [.register (Toolbox.herald "x")]
    (call "add" (.int 0x7ffffffffffffffe) (.int 1)) ()).1 _ .add
  have hmultiply := (execute_exact [.register (Toolbox.herald "x")]
    (call "multiply" (.int 0x80000000) (.int 0x100000000)) ()).1 _ .multiply
  have hdivide := (execute_exact [.register (Toolbox.herald "x")]
    (call "divide" (.int 1) (.float (Binary64.ofInt 2))) ()).2 rfl
  refine ⟨?_, ?_, ?_⟩
  · refine (hadd.1 _).mpr ⟨0x7ffffffffffffffe, 1, ?_, by decide, by decide +kernel⟩
    exact operands_call_iff.mpr ⟨by decide, by decide, rfl, rfl⟩
  · have hproduct : Operands (call "multiply" (.int 0x80000000) (.int 0x100000000)).arguments
        0x80000000 0x100000000 := operands_call_iff.mpr ⟨by decide, by decide, rfl, rfl⟩
    refine hmultiply.2.2.mpr ⟨hproduct.fits, fun m n hoperands => ?_⟩
    obtain ⟨rfl, rfl⟩ := hproduct.unique hoperands
    decide
  · rw [hdivide]
    rintro ⟨m, n, hoperands, -⟩
    exact nomatch (operands_call_iff.mp hoperands).2.2.2

end Dialogue.Arithmetic
