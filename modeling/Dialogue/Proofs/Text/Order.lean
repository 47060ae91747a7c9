import Dialogue.Text.Utf8
import Mathlib.Tactic.SplitIfs

/-!
# The order of texts

Texts are compared character by character, and octets one by one. UTF-8 is made so that both come
to the same: the first octet of a character is the larger the more octets there are.

Main statement: `encode_lt`.
-/

namespace Dialogue.Text.Utf8

/-- Of two characters the smaller one has the smaller octets, whatever follows them. -/
theorem octetsOf_append_lt {c d : Char} (h : c < d) (x y : List Nat) :
    octetsOf c ++ x < octetsOf d ++ y := by
  have hlt : c.toNat < d.toNat := h
  simp only [octetsOf]
  generalize c.toNat = m at hlt
  generalize d.toNat = n at hlt
  -- One case for each two numbers of octets. If they differ, so do the first octets; otherwise the
  -- first octets that differ are in the order of the characters.
  split_ifs <;> simp only [List.cons_append, List.nil_append, List.cons_lt_cons_iff] <;> omega

/-- **Order.** If a text comes before another, so do its octets. -/
theorem encode_lt {cs ds : List Char} (h : cs < ds) : encode cs < encode ds := by
  induction h with
  | @nil d ds =>
    obtain ⟨b, tl, hd⟩ : ∃ b tl, octetsOf d = b :: tl := by
      simp only [octetsOf]
      split_ifs <;> exact ⟨_, _, rfl⟩
    rw [encode, encode, List.flatMap_nil, List.flatMap_cons, hd]
    exact List.nil_lt_cons ..
  | rel h => exact octetsOf_append_lt h _ _
  | cons _ ih => exact List.append_left_lt ih

end Dialogue.Text.Utf8
