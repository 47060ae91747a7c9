import Dialogue.Proofs.Json.ReadBack
import Dialogue.Proofs.Json.Records
import Dialogue.Proofs.ToolServer.Requests

/-!
# Replies

A server replies to a request with a value and the id of the request. A reply that is printed is
read back, so it serves the request with the value, as long as the id has 64 bits and the value has
no other numbers than integers of 64 bits.

Main statement: `serves_reply`.
-/

namespace Dialogue

namespace Json

variable {v : Json} {depth limit fuel : Nat} {rest : List Char}

/-- Only the text of `null` begins with an N. -/
theorem Integral.begins (h : v.Integral depth) :
    ∃ c cs, v.chars = c :: cs ∧ Text.isBlank c = false ∧ (c = 'n' → v = .null) := by
  obtain ⟨c, cs, hchars, hblank, -⟩ := h.beginsValue
  refine ⟨c, cs, hchars, hblank, ?_⟩
  rintro rfl
  cases h with
  | null => rfl
  | bool b => cases b <;> cases hchars
  | str s => cases hchars
  | @arr _ xs _ => cases xs <;> cases hchars
  | @obj _ ms _ _ => rcases ms with _ | ⟨⟨k, v⟩, ms⟩ <;> cases hchars
  | @int _ n _ _ =>
    change intChars n = _ at hchars
    unfold intChars at hchars
    split at hchars
    · cases hchars
    · have hdigit : isDigit 'n' = true :=
        isDigit_of_mem_toDigits (hchars ▸ List.mem_cons_self .. : 'n' ∈ Nat.toDigits 10 n.natAbs)
      exact absurd hdigit (by decide)

/-- Where any value may stand, a value is read back. -/
theorem Integral.readForm_any (h : v.Integral depth) (hlimit : depth < limit)
    (hfuel : 2 * v.chars.length + 2 ≤ fuel) (hrest : EndsNumber rest) :
    readForm .characters fuel limit (.nullable .any) (v.chars ++ rest) = .ok (v, rest) := by
  obtain ⟨fuel, rfl⟩ := Nat.exists_eq_add_of_le' (Nat.le_trans (Nat.le_add_left 2 _) hfuel)
  have hread := h.readsBack hlimit (Nat.le_of_add_le_add_right hfuel) hrest
  obtain ⟨c, cs, hchars, hblank, hnull⟩ := h.begins
  by_cases hn : c = 'n'
  · obtain rfl := hnull hn
    change readForm _ _ _ _ ('n' :: 'u' :: 'l' :: 'l' :: rest) = _
    rw [readForm, skipSpace_of_not_blank _ (by decide)]
    rfl
  · rw [hchars, List.cons_append] at hread ⊢
    rw [readForm, skipSpace_of_not_blank _ hblank]
    split
    · next heq => exact absurd (List.cons.inj heq).1 hn
    · rw [readForm, hread]
      rfl

/-- The comma before a field that is not the first one. -/
def comma (first : Bool) : List Char :=
  if first then [] else [',']

/-- A field for any value is read back, if it was not read before. -/
theorem Integral.readFields_any (h : v.Integral depth) (name : String)
    {fields : List (String × Form × Bool)} {first : Bool} {read : Members} (hlimit : depth < limit)
    (hform : fieldForm? name fields = some (.nullable .any)) (hnew : Table.lookup name read = none)
    (hfuel : 2 * v.chars.length + name.length + 2 ≤ fuel) (hrest : EndsNumber rest) :
    readFields .characters (fuel + 1) limit fields first read
        (comma first ++ (stringChars name ++ ':' :: (v.chars ++ rest))) =
      readFields .characters fuel limit fields false (Table.insert name v read) rest := by
  have hstring : readString .characters fuel
      (name.toList.flatMap escapeChar ++ '"' :: ':' :: (v.chars ++ rest)) =
        .ok (name, ':' :: (v.chars ++ rest)) :=
    readString_escaped (by rw [String.length_toList]; omega) _
  have hvalue := h.readForm_any hlimit (by omega : 2 * v.chars.length + 2 ≤ fuel) hrest
  have htext : stringChars name ++ ':' :: (v.chars ++ rest) =
      '"' :: (name.toList.flatMap escapeChar ++ '"' :: ':' :: (v.chars ++ rest)) := by
    simp [stringChars]
  rw [htext]
  conv_lhs => unfold readFields
  cases first
  · simp (disch := decide) only [comma, skipSpace_of_not_blank, List.cons_append, List.nil_append,
      Bool.false_eq_true, if_false, asText, Except.mapError, ok_bind, hstring, hform, hnew, hvalue]
    rfl
  · simp (disch := decide) only [comma, skipSpace_of_not_blank, List.nil_append, if_true, asText,
      Except.mapError, ok_bind, hstring, hform, hnew, hvalue]
    rfl

/-- The fields end at the brace. -/
theorem readFields_close (fields : List (String × Form × Bool)) (read : Members) :
    readFields .characters (fuel + 1) limit fields false read ('}' :: rest) = .ok (read, rest) := by
  unfold readFields
  rw [skipSpace_of_not_blank _ (by decide)]
  rfl

/-- A record is read if its fields are. -/
theorem readForm_record {cs : List Char} {ms : Members} {fields : List (String × Form × Bool)}
    (name : String) (hlimit : 0 < limit)
    (hfields : readFields .characters fuel limit fields true [] cs = .ok (ms, rest))
    (hmissing : firstMissing? fields ms = none) :
    readForm .characters (fuel + 1) (limit + 1) (.record name fields) ('{' :: cs) =
      .ok (.obj ms, rest) := by
  have hdeep : ¬ limit + 1 ≤ 1 := by omega
  rw [readForm, skipSpace_of_not_blank _ (by decide)]
  simp only [if_neg hdeep, Nat.add_sub_cancel, hfields, ok_bind, hmissing]

end Json

namespace ToolServer

variable {v : Json} {depth id : Nat}

/-- The text of a reply with a value. -/
def replyChars (id : Nat) (v : Json) : List Char :=
  (Json.obj [("id", .ofNat id), ("result", v)]).chars

/-- A response that is a reply. -/
def reply (id : Nat) (v : Json) : Http.Response :=
  ⟨200, [], Text.Utf8.encode (replyChars id v), none, none⟩

theorem text_reply (id : Nat) (v : Json) : (reply id v).text = replyChars id v := by
  change Http.Response.textOf (Text.Utf8.encode (replyChars id v)) = _
  unfold Http.Response.textOf
  split
  · next hmark => cases hmark
  · exact Text.Utf8.decodeLossy_encode _

theorem parseForm_replyChars (hid : id < 2 ^ 64) (h : v.Integral depth) (hdepth : depth < 127) :
    Json.parseForm .characters Rpc.Response.form (replyChars id v) =
      .ok (.obj [("id", .ofNat id), ("result", v)]) := by
  have hchars : replyChars id v = '{' :: (Json.comma true ++ (Json.stringChars "id" ++ ':' ::
      ((Json.ofNat id).chars ++ (Json.comma false ++ (Json.stringChars "result" ++ ':' ::
        (v.chars ++ ['}'])))))) := by
    simp [replyChars, Json.chars, Json.memberChars, Json.comma]
  have hnumber : (Json.ofNat id).Integral depth := .int (by omega) (by omega)
  have hcomma (cs : List Char) : Json.EndsNumber (Json.comma false ++ cs) :=
    Json.endsNumber_mark _ (by decide)
  have hbrace : Json.EndsNumber ['}'] := Json.endsNumber_mark _ (by decide)
  obtain ⟨fuel, hfuel⟩ : ∃ fuel, 4 * (replyChars id v).length + 16 = fuel + 4 := ⟨_, rfl⟩
  have hlength : 2 * (Json.ofNat id).chars.length + 8 ≤ fuel ∧ 2 * v.chars.length + 8 ≤ fuel := by
    simp only [hchars, List.length_cons, List.length_append] at hfuel
    omega
  have hname : "id".length = 2 ∧ "result".length = 6 := ⟨rfl, rfl⟩
  have hread : Json.readForm .characters (fuel + 4) 128 Rpc.Response.form _ =
      .ok (.obj [("id", .ofNat id), ("result", v)], []) :=
    Json.readForm_record "JsonRpcResponse" (by decide)
      ((hnumber.readFields_any "id" hdepth rfl rfl (show _ ≤ fuel + 2 by omega) (hcomma _)).trans
        ((h.readFields_any "result" hdepth rfl rfl (show _ ≤ fuel + 1 by omega) hbrace).trans
          (Json.readFields_close _ _))) rfl
  rw [Json.parseForm, hfuel, hchars]
  exact Json.bind_eq_ok_iff.mpr ⟨_, hread, rfl⟩

theorem read?_replyChars (hid : id < 2 ^ 64) (h : v.Integral depth) (hdepth : depth < 127)
    (hne : v ≠ .null) :
    Rpc.Response.read? (replyChars id v) = some ⟨some (.ofNat id), some v, none⟩ := by
  rw [Rpc.Response.read?, parseForm_replyChars hid h hdepth]
  have hresult : Rpc.Response.present (.obj [("id", .ofNat id), ("result", v)]) "result" = some v :=
    Option.filter_eq_some_iff.mpr ⟨rfl, decide_eq_true hne⟩
  simp only [hresult]
  rfl

/-- **A reply** serves the request that it is for. -/
theorem serves_reply (hid : id < 2 ^ 64) (h : v.Integral depth) (hdepth : depth < 127)
    (hne : v ≠ .null) : Serves (.ok (reply id v)) id v :=
  ⟨_, _, ⟨rfl, rfl, rfl⟩, .text rfl (text_reply id v ▸ read?_replyChars hid h hdepth hne) rfl, rfl,
    rfl⟩

end ToolServer

end Dialogue
