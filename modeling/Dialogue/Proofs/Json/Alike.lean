import Dialogue.Json.Expected
import Dialogue.Proofs.Json.Records

/-!
# Texts with other blanks after line feeds

The lines of a JSON text may be moved to the left or to the right, and the text is read as before. A
line feed never stands in a string, so the blanks after it stand between lexemes. `Alike` says of
two texts that they differ in such blanks only. `Follows` says of two readings that the second
succeeds wherever the first does; here it is shown of the readers of lexemes, each of which follows
itself from one text to another that is alike.

Main statements: `Rest.cases` (after blanks, both texts go on with the same character),
`readString_follows`, `readNumber_follows`, `skipString_follows` and `skipNumber_follows`.
-/

namespace Dialogue.Json

/-! ## Texts that are alike -/

/-- Texts that differ in nothing but the blanks after line feeds. -/
inductive Alike : List Char → List Char → Prop where
  | nil : Alike [] []
  | cons {cs cs' : List Char} (c : Char) : Alike cs cs' → Alike (c :: cs) (c :: cs')
  | indent {ws ws' cs cs' : List Char} : (∀ c ∈ ws, isSpace c = true) →
      (∀ c ∈ ws', isSpace c = true) → Alike cs cs' →
      Alike ('\n' :: (ws ++ cs)) ('\n' :: (ws' ++ cs'))

namespace Alike

variable {cs cs' : List Char} {c : Char}

theorem refl (cs : List Char) : Alike cs cs := by
  induction cs with
  | nil => exact .nil
  | cons c cs ih => exact .cons c ih

theorem symm (h : Alike cs cs') : Alike cs' cs := by
  induction h with
  | nil => exact .nil
  | cons c _ ih => exact .cons c ih
  | indent hws hws' _ ih => exact .indent hws' hws ih

theorem append_left (front : List Char) (h : Alike cs cs') :
    Alike (front ++ cs) (front ++ cs') := by
  induction front with
  | nil => exact h
  | cons c front ih => exact .cons c ih

/-- What is no line feed stands in both texts. -/
theorem exists_of_cons (h : Alike (c :: cs) cs') (hc : c ≠ '\n') :
    ∃ t, cs' = c :: t ∧ Alike cs t := by
  cases h with
  | cons _ h => exact ⟨_, rfl, h⟩
  | indent _ _ _ => exact absurd rfl hc

theorem exists_head (h : Alike (c :: cs) cs') : ∃ t, cs' = c :: t := by
  cases h with
  | cons _ _ => exact ⟨_, rfl⟩
  | indent _ _ _ => exact ⟨_, rfl⟩

theorem ne_nil (h : Alike cs cs') (hcs : cs = [] → False) : cs' = [] → False := by
  rintro rfl
  cases h
  exact hcs rfl

/-- No text begins with a character that the other does not begin with. -/
theorem ne_cons (h : Alike cs cs') (hc : c ≠ '\n') (hcs : ∀ t, cs = c :: t → False) :
    ∀ t, cs' = c :: t → False := by
  rintro t rfl
  obtain ⟨t, rfl, -⟩ := h.symm.exists_of_cons hc
  exact hcs t rfl

theorem skipSpace (h : Alike cs cs') : Alike (skipSpace cs) (Json.skipSpace cs') := by
  induction h with
  | nil => exact .nil
  | @cons cs cs' c h ih =>
    by_cases hc : isSpace c = true
    · simpa only [Json.skipSpace, List.dropWhile_cons_of_pos hc] using ih
    · simpa only [Json.skipSpace, List.dropWhile_cons_of_neg hc] using h.cons c
  | indent hws hws' _ ih =>
    have hfeed : isSpace '\n' = true := by decide
    simpa only [Json.skipSpace, List.dropWhile_cons_of_pos hfeed, List.dropWhile_append_of_pos hws,
      List.dropWhile_append_of_pos hws'] using ih

/-- Digits at the front stand in both texts. -/
theorem digits (h : Alike cs cs') :
    cs'.takeWhile isDigit = cs.takeWhile isDigit ∧
      Alike (cs.dropWhile isDigit) (cs'.dropWhile isDigit) := by
  have hfeed : ¬ isDigit '\n' = true := by decide
  induction h with
  | nil => exact ⟨rfl, .nil⟩
  | @cons cs cs' c h ih =>
    by_cases hc : isDigit c = true
    · simpa only [List.takeWhile_cons_of_pos hc, List.dropWhile_cons_of_pos hc, List.cons.injEq,
        true_and] using ih
    · simpa only [List.takeWhile_cons_of_neg hc, List.dropWhile_cons_of_neg hc, true_and]
        using h.cons c
  | indent hws hws' h _ =>
    simpa only [List.takeWhile_cons_of_neg hfeed, List.dropWhile_cons_of_neg hfeed, true_and]
      using h.indent hws hws'

end Alike

/-! ## Readings that follow one another -/

/-- Wherever `x` succeeds, `y` does, and their results are related. -/
def Follows {ε α β : Type} (R : α → β → Prop) (x : Except ε α) (y : Except ε β) : Prop :=
  ∀ a, x = .ok a → ∃ b, y = .ok b ∧ R a b

section

variable {ε α β γ δ : Type} {R : α → β → Prop} {S : γ → δ → Prop} {x : Except ε α}
  {y : Except ε β}

theorem follows_ok {a : α} {b : β} (h : R a b) :
    Follows R (.ok a : Except ε α) (.ok b : Except ε β) := by
  rintro _ ⟨⟩
  exact ⟨b, rfl, h⟩

theorem follows_error (e : ε) : Follows R (.error e) y :=
  nofun

theorem Follows.mono {R' : α → β → Prop} (h : Follows R x y) (hR : ∀ a b, R a b → R' a b) :
    Follows R' x y := by
  intro a ha
  obtain ⟨b, hb, hab⟩ := h a ha
  exact ⟨b, hb, hR a b hab⟩

theorem Follows.bind {f : α → Except ε γ} {g : β → Except ε δ} (h : Follows R x y)
    (hfg : ∀ a b, R a b → Follows S (f a) (g b)) : Follows S (x >>= f) (y >>= g) := by
  intro c hc
  obtain ⟨a, ha, hc⟩ := bind_eq_ok_iff.mp hc
  obtain ⟨b, hb, hab⟩ := h a ha
  obtain ⟨d, hd, hcd⟩ := hfg a b hab c hc
  exact ⟨d, bind_eq_ok_iff.mpr ⟨b, hb, hd⟩, hcd⟩

theorem Follows.asText {x : Except TextFault α} {y : Except TextFault β} (h : Follows R x y) :
    Follows R (asText x) (asText y) := by
  intro a ha
  obtain ⟨b, hb, hab⟩ := h a (mapError_eq_ok_iff.mp ha)
  exact ⟨b, mapError_eq_ok_iff.mpr hb, hab⟩

end

/-- What is left of two texts: it is alike, and of the second text no more than `n` characters. -/
structure Rest (n : Nat) (cs cs' : List Char) : Prop where
  alike : Alike cs cs'
  length_le : cs'.length ≤ n

/-- The same was read from two texts. -/
structure Same {α : Type} (n : Nat) (p p' : α × List Char) : Prop where
  eq : p.1 = p'.1
  rest : Rest n p.2 p'.2

section

variable {n : Nat} {c : Char} {cs cs' : List Char}

theorem Rest.mono (h : Rest n cs cs') : Rest (n + 1) cs cs' :=
  ⟨h.alike, Nat.le_succ_of_le h.length_le⟩

theorem Same.mono {α : Type} {p p' : α × List Char} (h : Same n p p') : Same (n + 1) p p' :=
  ⟨h.eq, h.rest.mono⟩

theorem Rest.of_cons (h : Rest n (c :: cs) cs') (hc : c ≠ '\n') :
    ∃ m t, n = m + 1 ∧ cs' = c :: t ∧ Rest m cs t := by
  obtain ⟨t, rfl, halike⟩ := h.alike.exists_of_cons hc
  have hlength := h.length_le
  rw [List.length_cons] at hlength
  exact ⟨n - 1, t, by omega, rfl, halike, by omega⟩

theorem Rest.skipSpace (h : Rest n cs cs') : Rest n (skipSpace cs) (Json.skipSpace cs') := by
  refine ⟨h.alike.skipSpace, Nat.le_trans ?_ h.length_le⟩
  exact (List.dropWhile_sublist _).length_le

/-- After blanks, both texts go on with the same character or end. -/
theorem Rest.cases (h : Rest n (Json.skipSpace cs) (Json.skipSpace cs')) :
    Json.skipSpace cs = [] ∧ Json.skipSpace cs' = [] ∨
      ∃ c t t' m, Json.skipSpace cs = c :: t ∧ Json.skipSpace cs' = c :: t' ∧ n = m + 1 ∧
        Rest m t t' := by
  rcases hcs : Json.skipSpace cs with _ | ⟨c, t⟩
  · rw [hcs] at h
    generalize Json.skipSpace cs' = t' at h
    obtain ⟨⟨⟩, -⟩ := h
    exact .inl ⟨rfl, rfl⟩
  · have hc : c ≠ '\n' := by
      rintro rfl
      have hfirst := List.head?_dropWhile_not isSpace cs
      rw [← Json.skipSpace, hcs] at hfirst
      exact Bool.noConfusion (show isSpace '\n' = false from hfirst)
    rw [hcs] at h
    obtain ⟨m, t', hn, hcs', hrest⟩ := h.of_cons hc
    exact .inr ⟨c, t, t', m, rfl, hcs', hn, hrest⟩

end

/-! ## Lexemes -/

section

variable {src : Source} {n fuel fuel' : Nat} {cs cs' : List Char}

theorem readLiteral_follows {expected : List Char} (hexpected : '\n' ∉ expected)
    (h : Rest n cs cs') :
    Follows (Rest n) (readLiteral expected cs) (readLiteral expected cs') := by
  induction expected generalizing n cs cs' with
  | nil => exact follows_ok h
  | cons e es ih =>
    obtain ⟨he, hes⟩ := List.ne_and_not_mem_of_not_mem_cons hexpected
    rcases cs with _ | ⟨c, cs⟩
    · exact follows_error _
    · by_cases hc : c = e
      · obtain ⟨m, t, rfl, rfl, hrest⟩ := h.of_cons (hc ▸ Ne.symm he)
        simp only [readLiteral, if_pos hc]
        exact (ih hes hrest).mono fun _ _ => Rest.mono
      · simp only [readLiteral, if_neg hc]
        exact follows_error _

theorem ne_of_hexValue? {c : Char} {d : Nat} (h : hexValue? c = some d) : c ≠ '\n' := by
  rintro rfl
  cases h

theorem readHex4_follows (h : Rest n cs cs') :
    Follows (Same n) (readHex4 src cs) (readHex4 src cs') := by
  rintro ⟨value, rest⟩ hread
  unfold readHex4 at hread
  split at hread
  · next a b c d rest' =>
    split at hread
    · next ha hb hc hd =>
      obtain ⟨rfl, rfl⟩ := Prod.mk.inj (Except.ok.inj hread)
      obtain ⟨_, _, rfl, rfl, h₁⟩ := h.of_cons (ne_of_hexValue? ha)
      obtain ⟨_, _, rfl, rfl, h₂⟩ := h₁.of_cons (ne_of_hexValue? hb)
      obtain ⟨_, _, rfl, rfl, h₃⟩ := h₂.of_cons (ne_of_hexValue? hc)
      obtain ⟨_, t, rfl, rfl, h₄⟩ := h₃.of_cons (ne_of_hexValue? hd)
      exact ⟨(_, t), by simp only [readHex4, ha, hb, hc, hd], rfl, h₄.mono.mono.mono.mono⟩
    · cases hread
  · split at hread <;> cases hread

theorem readLowSurrogate_follows (high : Nat) (h : Rest n cs cs') :
    Follows (Same n) (readLowSurrogate src high cs) (readLowSurrogate src high cs') := by
  unfold readLowSurrogate
  split
  · exact follows_error _
  · exact follows_error _
  · next cs =>
    obtain ⟨_, _, rfl, rfl, h₁⟩ := h.of_cons (by decide)
    obtain ⟨_, _, rfl, rfl, h₂⟩ := h₁.of_cons (by decide)
    refine (readHex4_follows h₂).bind ?_
    rintro ⟨low, rest⟩ ⟨_, rest'⟩ ⟨rfl, hrest⟩
    dsimp only
    split
    · exact follows_ok ⟨rfl, hrest.mono.mono⟩
    · exact follows_error _
  · exact follows_error _

theorem readEscape_follows (h : Rest n cs cs') :
    Follows (Same n) (readEscape src cs) (readEscape src cs') := by
  unfold readEscape
  split
  · exact follows_error _
  iterate 8
    obtain ⟨_, t, rfl, rfl, hrest⟩ := h.of_cons (by decide)
    exact follows_ok ⟨rfl, hrest.mono⟩
  · next cs =>
    obtain ⟨_, _, rfl, rfl, h₁⟩ := h.of_cons (by decide)
    refine (readHex4_follows h₁).bind ?_
    rintro ⟨k, rest⟩ ⟨_, rest'⟩ ⟨rfl, hrest⟩
    dsimp only
    split
    · exact follows_error _
    · split
      · exact (readLowSurrogate_follows k hrest).mono fun _ _ => Same.mono
      · exact follows_ok ⟨rfl, hrest.mono⟩
  · exact follows_error _

/-- Fuel for every character is enough for the elements of a string. -/
theorem readElements_follows (h : Rest n cs cs') (hfuel : n ≤ fuel') :
    Follows (Same n) (readElements src fuel cs) (readElements src fuel' cs') := by
  induction fuel generalizing n fuel' cs cs' with
  | zero => cases cs <;> exact follows_error _
  | succ fuel ih =>
    rcases cs with _ | ⟨c, cs⟩
    · exact follows_error _
    · by_cases hc : c = '\n'
      · subst hc
        exact follows_error _
      · obtain ⟨m, t, rfl, rfl, hrest⟩ := h.of_cons hc
        obtain ⟨fuel', rfl⟩ := Nat.exists_eq_add_of_le' (Nat.le_trans (Nat.le_add_left 1 m) hfuel)
        have hfuel' : m ≤ fuel' := Nat.le_of_succ_le_succ hfuel
        unfold readElements
        split
        · exact follows_error _
        · exact follows_error _
        · next hf heq =>
          cases hf
          cases heq
          exact follows_ok ⟨rfl, hrest.mono⟩
        · next hf heq =>
          cases hf
          cases heq
          refine (readEscape_follows hrest).bind ?_
          rintro ⟨e, rest⟩ ⟨_, rest'⟩ ⟨rfl, hescaped⟩
          refine (ih hescaped hfuel').bind ?_
          rintro ⟨es, left⟩ ⟨_, left'⟩ ⟨rfl, hleft⟩
          exact follows_ok ⟨rfl, hleft.mono⟩
        · next hf heq =>
          cases hf
          cases heq
          simp only
          split
          · exact follows_error _
          · refine (ih hrest hfuel').bind ?_
            rintro ⟨es, left⟩ ⟨_, left'⟩ ⟨rfl, hleft⟩
            exact follows_ok ⟨rfl, hleft.mono⟩

theorem readString_follows (h : Rest n cs cs') (hfuel : n ≤ fuel') :
    Follows (Same n) (readString src fuel cs) (readString src fuel' cs') := by
  refine (readElements_follows h hfuel).bind ?_
  rintro ⟨es, rest⟩ ⟨_, rest'⟩ ⟨rfl, hrest⟩
  dsimp only
  split
  · exact follows_ok ⟨rfl, hrest⟩
  · exact follows_error _

/-! ## Numbers -/

theorem Rest.digits (h : Rest n cs cs') :
    cs'.takeWhile isDigit = cs.takeWhile isDigit ∧
      Rest n (cs.dropWhile isDigit) (cs'.dropWhile isDigit) := by
  obtain ⟨htake, halike⟩ := h.alike.digits
  exact ⟨htake, halike, Nat.le_trans (List.dropWhile_sublist _).length_le h.length_le⟩

theorem finishFloat_follows (negative : Bool) (significand : Nat) (exponent : Int)
    (h : Rest n cs cs') :
    Follows (Same n) (finishFloat negative significand exponent cs)
      (finishFloat negative significand exponent cs') := by
  unfold finishFloat
  split
  · exact follows_ok ⟨rfl, h⟩
  · exact follows_error _

theorem readExponent_follows (negative : Bool) (significand : Nat) (exponent : Int)
    (h : Rest n cs cs') :
    Follows (Same n) (readExponent negative significand exponent cs)
      (readExponent negative significand exponent cs') := by
  unfold readExponent
  split
  next below u hu =>
  -- The same sign stands in both texts, or none does.
  split at hu
  case' h_1 =>
    obtain ⟨_, t, rfl, rfl, hrest⟩ := h.of_cons (by decide)
    obtain ⟨htake, hdrop⟩ := hrest.mono.digits
  case' h_2 =>
    obtain ⟨_, t, rfl, rfl, hrest⟩ := h.of_cons (by decide)
    obtain ⟨htake, hdrop⟩ := hrest.mono.digits
  case' h_3 hplus hminus =>
    have hplus' := h.alike.ne_cons (by decide) hplus
    have hminus' := h.alike.ne_cons (by decide) hminus
    obtain ⟨htake, hdrop⟩ := h.digits
  all_goals
    cases hu
    simp only [htake]
    split
    · exact follows_error _
    · split
      · exact finishFloat_follows _ _ _ hdrop
      · split
        · exact follows_error _
        · exact follows_ok ⟨rfl, hdrop⟩

theorem readAfterFraction_follows (negative : Bool) (significand : Nat) (exponent : Int)
    (h : Rest n cs cs') :
    Follows (Same n) (readAfterFraction negative significand exponent cs)
      (readAfterFraction negative significand exponent cs') := by
  unfold readAfterFraction
  split
  · obtain ⟨_, t, rfl, rfl, hrest⟩ := h.of_cons (by decide)
    exact (readExponent_follows _ _ _ hrest).mono fun _ _ => Same.mono
  · obtain ⟨_, t, rfl, rfl, hrest⟩ := h.of_cons (by decide)
    exact (readExponent_follows _ _ _ hrest).mono fun _ _ => Same.mono
  · next he hE =>
    have he' := h.alike.ne_cons (by decide) he
    have hE' := h.alike.ne_cons (by decide) hE
    simp only
    exact finishFloat_follows _ _ _ h

theorem readFraction_follows (negative : Bool) (significand : Nat) (exponent : Int)
    (h : Rest n cs cs') :
    Follows (Same n) (readFraction negative significand exponent cs)
      (readFraction negative significand exponent cs') := by
  obtain ⟨htake, hdrop⟩ := h.digits
  simp only [readFraction, htake]
  split
  · exact follows_error _
  · exact readAfterFraction_follows _ _ _ hdrop

theorem readNumber_follows (negative : Bool) (h : Rest n cs cs') :
    Follows (Same n) (readNumber negative cs) (readNumber negative cs') := by
  obtain ⟨htake, hdrop⟩ := h.digits
  simp only [readNumber, htake]
  generalize cs.dropWhile isDigit = u at hdrop
  generalize cs'.dropWhile isDigit = u' at hdrop
  split
  · exact follows_error _
  · split
    · exact follows_error _
    · split
      · next cs =>
        obtain ⟨_, t, rfl, rfl, hrest⟩ := hdrop.of_cons (by decide)
        exact (readFraction_follows _ _ _ hrest).mono fun _ _ => Same.mono
      · next cs =>
        obtain ⟨_, t, rfl, rfl, hrest⟩ := hdrop.of_cons (by decide)
        exact (readExponent_follows _ _ _ hrest).mono fun _ _ => Same.mono
      · next cs =>
        obtain ⟨_, t, rfl, rfl, hrest⟩ := hdrop.of_cons (by decide)
        exact (readExponent_follows _ _ _ hrest).mono fun _ _ => Same.mono
      · next hpoint he hE =>
        have hpoint' := hdrop.alike.ne_cons (by decide) hpoint
        have he' := hdrop.alike.ne_cons (by decide) he
        have hE' := hdrop.alike.ne_cons (by decide) hE
        simp only
        split
        · exact follows_ok ⟨rfl, hdrop⟩
        · exact finishFloat_follows _ _ _ hdrop

/-! ## Lexemes that are passed over -/

theorem skipString_follows (h : Rest n cs cs') (hfuel : n ≤ fuel') :
    Follows (Rest n) (skipString src fuel cs) (skipString src fuel' cs') := by
  induction fuel generalizing n fuel' cs cs' with
  | zero => cases cs <;> exact follows_error _
  | succ fuel ih =>
    rcases cs with _ | ⟨c, cs⟩
    · exact follows_error _
    · by_cases hc : c = '\n'
      · subst hc
        exact follows_error _
      · obtain ⟨m, t, rfl, rfl, hrest⟩ := h.of_cons hc
        obtain ⟨fuel', rfl⟩ := Nat.exists_eq_add_of_le' (Nat.le_trans (Nat.le_add_left 1 m) hfuel)
        have hfuel' : m ≤ fuel' := Nat.le_of_succ_le_succ hfuel
        unfold skipString
        split
        · exact follows_error _
        · exact follows_error _
        · next hf heq =>
          cases hf
          cases heq
          exact follows_ok hrest.mono
        · next hf heq =>
          cases hf
          cases heq
          dsimp only
          split
          · exact follows_error _
          · obtain ⟨_, _, rfl, rfl, h₁⟩ := hrest.of_cons (by decide)
            refine (readHex4_follows h₁).bind ?_
            rintro ⟨_, rest⟩ ⟨_, rest'⟩ ⟨-, hleft⟩
            exact (ih hleft (Nat.le_of_succ_le hfuel')).mono fun _ _ h => h.mono.mono
          · next c cs hu =>
            split
            · next hknown =>
              have hc : c ≠ '\n' := by
                rintro rfl
                exact absurd hknown (by decide)
              obtain ⟨_, _, rfl, rfl, h₁⟩ := hrest.of_cons hc
              simp only [if_pos hknown]
              exact (ih h₁ (Nat.le_of_succ_le hfuel')).mono fun _ _ h => h.mono.mono
            · exact follows_error _
        · next hf heq =>
          cases hf
          cases heq
          simp only
          split
          · exact follows_error _
          · exact (ih hrest hfuel').mono fun _ _ => Rest.mono

theorem skipDigits_follows (h : Rest n cs cs') :
    Follows (Rest n) (skipDigits cs) (skipDigits cs') := by
  obtain ⟨htake, hdrop⟩ := h.digits
  simp only [skipDigits, htake]
  split
  · exact follows_error _
  · exact follows_ok hdrop

theorem skipExponent_follows (h : Rest n cs cs') :
    Follows (Rest n) (skipExponent cs) (skipExponent cs') := by
  unfold skipExponent
  split
  iterate 2
    obtain ⟨_, _, rfl, rfl, h₁⟩ := h.of_cons (by decide)
    obtain ⟨_, _, rfl, rfl, h₂⟩ := h₁.of_cons (by decide)
    exact (skipDigits_follows h₂).mono fun _ _ h => h.mono.mono
  · next hplus hminus =>
    obtain ⟨_, t, rfl, rfl, h₁⟩ := h.of_cons (by decide)
    have hplus' := h₁.alike.ne_cons (by decide) hplus
    have hminus' := h₁.alike.ne_cons (by decide) hminus
    simp only
    exact (skipDigits_follows h₁).mono fun _ _ => Rest.mono
  iterate 2
    obtain ⟨_, _, rfl, rfl, h₁⟩ := h.of_cons (by decide)
    obtain ⟨_, _, rfl, rfl, h₂⟩ := h₁.of_cons (by decide)
    exact (skipDigits_follows h₂).mono fun _ _ h => h.mono.mono
  · next hplus hminus =>
    obtain ⟨_, t, rfl, rfl, h₁⟩ := h.of_cons (by decide)
    have hplus' := h₁.alike.ne_cons (by decide) hplus
    have hminus' := h₁.alike.ne_cons (by decide) hminus
    simp only
    exact (skipDigits_follows h₁).mono fun _ _ => Rest.mono
  · next he _ _ hE =>
    have he' := h.alike.ne_cons (by decide) he
    have hE' := h.alike.ne_cons (by decide) hE
    split
    iterate 3 exact absurd rfl (he' _)
    iterate 3 exact absurd rfl (hE' _)
    exact follows_ok h

/-- What may follow an integer is passed over. -/
theorem skipFraction_follows : Rest n cs cs' →
    Follows (Rest n)
      (match cs with
        | '.' :: cs => do skipExponent (← skipDigits cs)
        | cs => skipExponent cs)
      (match cs' with
        | '.' :: cs => do skipExponent (← skipDigits cs)
        | cs => skipExponent cs) := by
  intro h
  split
  · obtain ⟨_, t, rfl, rfl, hrest⟩ := h.of_cons (by decide)
    refine (skipDigits_follows hrest).bind fun _ _ hleft => ?_
    exact (skipExponent_follows hleft).mono fun _ _ => Rest.mono
  · next hpoint =>
    have hpoint' := h.alike.ne_cons (by decide) hpoint
    simp only
    exact skipExponent_follows h

theorem skipNumber_follows (h : Rest n cs cs') :
    Follows (Rest n) (skipNumber cs) (skipNumber cs') := by
  simp only [skipNumber]
  split
  · next c cs =>
    obtain ⟨_, _, rfl, rfl, hrest⟩ := h.of_cons (by decide)
    obtain ⟨t, rfl⟩ := hrest.alike.exists_head
    split
    · exact follows_error _
    · next hdigit =>
      simp only [if_neg hdigit]
      exact (skipFraction_follows hrest).mono fun _ _ => Rest.mono
  · next hzero =>
    have hzero' : ∀ c t, cs' = '0' :: c :: t → False := by
      rintro c t rfl
      obtain ⟨u, rfl, halike⟩ := h.alike.symm.exists_of_cons (by decide)
      obtain ⟨u, rfl⟩ := halike.exists_head
      exact hzero c u rfl
    simp only
    exact (skipDigits_follows h).bind fun _ _ => skipFraction_follows

end

end Dialogue.Json
