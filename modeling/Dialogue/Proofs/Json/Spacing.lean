import Dialogue.Proofs.Json.Alike
import Dialogue.Proofs.Json.Forms
import Dialogue.Proofs.Json.Lexemes

/-!
# Blanks at the beginnings of lines

A value is read from a text exactly if it is read from one that differs in the blanks after line
feeds only. The readers of values, of values that are passed over and of forms call one another, so
that what holds of all of them is shown by induction on the fuel of the first reading. The fuel of
the second is taken from the length of its text; what is needed of it is carried along with the
length of what is left (`Rest`).

Main statement: `parseForm_eq_ok_iff_of_alike`, from `valuesFollow`, `passingFollows` and
`formsFollow`.
-/

namespace Dialogue.Json

/-! ## Values -/

/-- The readers of values, of items and of members follow themselves as far as this fuel of the
first reading goes, if the second has two units for each of its characters. -/
structure ValuesFollow (src : Source) (fuel : Nat) : Prop where
  value {n fuel' depth : Nat} {cs cs' : List Char} : Rest n (skipSpace cs) (skipSpace cs') →
    2 * n + 1 ≤ fuel' →
    Follows (Same n) (readValue src fuel depth cs) (readValue src fuel' depth cs')
  items {n fuel' depth : Nat} {cs cs' : List Char} : Rest n (skipSpace cs) (skipSpace cs') →
    2 * n + 2 ≤ fuel' →
    Follows (Same n) (readItems src fuel depth cs) (readItems src fuel' depth cs')
  members {n fuel' depth : Nat} {cs cs' : List Char} : Rest n cs cs' → 2 * n + 2 ≤ fuel' →
    Follows (Same n) (readMembers src fuel depth cs) (readMembers src fuel' depth cs')

section

variable {src : Source} {n fuel fuel' depth : Nat} {cs cs' : List Char}

/-- The first character says what kind of value is read. -/
theorem ValuesFollow.value_succ (ih : ValuesFollow src fuel)
    (h : Rest n (skipSpace cs) (skipSpace cs')) (hfuel : 2 * n + 1 ≤ fuel') :
    Follows (Same n) (readValue src (fuel + 1) depth cs) (readValue src fuel' depth cs') := by
  obtain ⟨fuel', rfl⟩ := Nat.exists_eq_add_of_le' (Nat.le_trans (Nat.le_add_left 1 _) hfuel)
  rw [readValue, readValue]
  rcases h.cases with ⟨hcs, -⟩ | ⟨c, t, t', m, hcs, hcs', rfl, hrest⟩
  · rw [hcs]
    exact follows_error _
  rw [hcs, hcs']
  split
  · exact follows_error _
  iterate 3
    next heq =>
      cases heq
      refine (readLiteral_follows (by decide) hrest).bind fun _ _ hleft => ?_
      exact follows_ok ⟨rfl, hleft.mono⟩
  · next heq =>
    cases heq
    refine (readString_follows hrest (by omega)).bind ?_
    rintro ⟨s, rest⟩ ⟨_, rest'⟩ ⟨rfl, hleft⟩
    exact follows_ok ⟨rfl, hleft.mono⟩
  · next heq =>
    cases heq
    refine (readNumber_follows true hrest).bind ?_
    rintro ⟨k, rest⟩ ⟨_, rest'⟩ ⟨rfl, hleft⟩
    exact follows_ok ⟨rfl, hleft.mono⟩
  · next heq =>
    cases heq
    simp only
    split
    · exact follows_error _
    rcases hrest.skipSpace.cases with ⟨ht, -⟩ | ⟨d, u, u', k, ht, ht', rfl, hitems⟩
    · rw [ht]
      exact follows_error _
    have hspace := hrest.skipSpace.skipSpace
    rw [ht, ht'] at hspace ⊢
    split
    · exact follows_error _
    · next heq =>
      cases heq
      exact follows_ok ⟨rfl, hitems.mono.mono⟩
    · next hclose =>
      have hclose' : ∀ rest, d :: u' = ']' :: rest → False := by
        rintro rest ⟨⟩
        exact hclose u rfl
      simp only
      refine (ih.items hspace (by omega)).bind ?_
      rintro ⟨xs, rest⟩ ⟨_, rest'⟩ ⟨rfl, hleft⟩
      exact follows_ok ⟨rfl, hleft.mono⟩
  · next heq =>
    cases heq
    simp only
    split
    · exact follows_error _
    rcases hrest.skipSpace.cases with ⟨ht, -⟩ | ⟨d, u, u', k, ht, ht', rfl, hmembers⟩
    · rw [ht]
      exact follows_error _
    rw [ht, ht']
    split
    · exact follows_error _
    · next heq =>
      cases heq
      exact follows_ok ⟨rfl, hmembers.mono.mono⟩
    · next heq =>
      cases heq
      refine (ih.members hmembers (by omega)).bind ?_
      rintro ⟨ms, rest⟩ ⟨_, rest'⟩ ⟨rfl, hleft⟩
      exact follows_ok ⟨rfl, hleft.mono.mono⟩
    · exact follows_error _
  · next heq =>
    cases heq
    simp only
    split
    · rw [hcs, hcs'] at h
      refine (readNumber_follows false h).bind ?_
      rintro ⟨k, rest⟩ ⟨_, rest'⟩ ⟨rfl, hleft⟩
      exact follows_ok ⟨rfl, hleft⟩
    · exact follows_error _

theorem ValuesFollow.items_succ (ih : ValuesFollow src fuel)
    (h : Rest n (skipSpace cs) (skipSpace cs')) (hfuel : 2 * n + 2 ≤ fuel') :
    Follows (Same n) (readItems src (fuel + 1) depth cs) (readItems src fuel' depth cs') := by
  obtain ⟨fuel', rfl⟩ := Nat.exists_eq_add_of_le' (Nat.le_trans (Nat.le_add_left 1 _) hfuel)
  rw [readItems, readItems]
  refine (ih.value h (by omega)).bind ?_
  rintro ⟨x, rest⟩ ⟨_, rest'⟩ ⟨rfl, hleft⟩
  dsimp only
  rcases hleft.skipSpace.cases with ⟨hcs, -⟩ | ⟨c, t, t', m, hcs, hcs', rfl, hrest⟩
  · rw [hcs]
    exact follows_error _
  rw [hcs, hcs']
  split
  · exact follows_error _
  · next heq =>
    cases heq
    exact follows_ok ⟨rfl, hrest.mono⟩
  · next heq =>
    cases heq
    simp only
    split
    · exact follows_error _
    · next hclose =>
      have hclose' := hrest.skipSpace.alike.ne_cons (by decide) hclose
      simp only
      refine (ih.items hrest.skipSpace.skipSpace (by omega)).bind ?_
      rintro ⟨xs, left⟩ ⟨_, left'⟩ ⟨rfl, hleft⟩
      exact follows_ok ⟨rfl, hleft.mono⟩
  · exact follows_error _

theorem ValuesFollow.members_succ (ih : ValuesFollow src fuel) (h : Rest n cs cs')
    (hfuel : 2 * n + 2 ≤ fuel') :
    Follows (Same n) (readMembers src (fuel + 1) depth cs)
      (readMembers src fuel' depth cs') := by
  obtain ⟨fuel', rfl⟩ := Nat.exists_eq_add_of_le' (Nat.le_trans (Nat.le_add_left 1 _) hfuel)
  rw [readMembers, readMembers]
  refine (readString_follows h (by omega)).bind ?_
  rintro ⟨key, rest⟩ ⟨_, rest'⟩ ⟨rfl, hkey⟩
  dsimp only
  rcases hkey.skipSpace.cases with ⟨hcs, -⟩ | ⟨_, t, t', m, hcs, hcs', rfl, h₁⟩
  · rw [hcs]
    exact follows_error _
  rw [hcs, hcs']
  split
  · exact follows_error _
  · next heq =>
    cases heq
    simp only
    refine (ih.value h₁.skipSpace (by omega)).bind ?_
    rintro ⟨v, left⟩ ⟨_, left'⟩ ⟨rfl, hvalue⟩
    dsimp only
    rcases hvalue.skipSpace.cases with ⟨ht, -⟩ | ⟨_, u, u', k, ht, ht', rfl, h₂⟩
    · rw [ht]
      exact follows_error _
    rw [ht, ht']
    split
    · exact follows_error _
    · next heq =>
      cases heq
      exact follows_ok ⟨rfl, h₂.mono.mono⟩
    · next heq =>
      cases heq
      simp only
      rcases h₂.skipSpace.cases with ⟨hu, -⟩ | ⟨_, w, w', l, hu, hu', rfl, h₃⟩
      · rw [hu]
        exact follows_error _
      rw [hu, hu']
      split
      · exact follows_error _
      · next heq =>
        cases heq
        simp only
        refine (ih.members h₃ (by omega)).bind ?_
        rintro ⟨ms, left⟩ ⟨_, left'⟩ ⟨rfl, hmembers⟩
        exact follows_ok ⟨rfl, hmembers.mono.mono.mono⟩
      · exact follows_error _
      · exact follows_error _
    · exact follows_error _
  · exact follows_error _

theorem valuesFollow (src : Source) (fuel : Nat) : ValuesFollow src fuel := by
  induction fuel with
  | zero =>
    exact ⟨fun _ _ => follows_error _, fun _ _ => follows_error _, fun _ _ => follows_error _⟩
  | succ fuel ih => exact ⟨ih.value_succ, ih.items_succ, ih.members_succ⟩

end

/-! ## Values that are passed over -/

/-- What passes over values, items and members follows itself as well. -/
structure PassingFollows (src : Source) (fuel : Nat) : Prop where
  value {n fuel' : Nat} {cs cs' : List Char} : Rest n (skipSpace cs) (skipSpace cs') →
    2 * n + 1 ≤ fuel' → Follows (Rest n) (skipValue src fuel cs) (skipValue src fuel' cs')
  items {n fuel' : Nat} {cs cs' : List Char} : Rest n (skipSpace cs) (skipSpace cs') →
    2 * n + 2 ≤ fuel' → Follows (Rest n) (skipItems src fuel cs) (skipItems src fuel' cs')
  members {n fuel' : Nat} {cs cs' : List Char} : Rest n (skipSpace cs) (skipSpace cs') →
    2 * n + 2 ≤ fuel' → Follows (Rest n) (skipMembers src fuel cs) (skipMembers src fuel' cs')

section

variable {src : Source} {n fuel fuel' : Nat} {cs cs' : List Char}

theorem PassingFollows.value_succ (ih : PassingFollows src fuel)
    (h : Rest n (skipSpace cs) (skipSpace cs')) (hfuel : 2 * n + 1 ≤ fuel') :
    Follows (Rest n) (skipValue src (fuel + 1) cs) (skipValue src fuel' cs') := by
  obtain ⟨fuel', rfl⟩ := Nat.exists_eq_add_of_le' (Nat.le_trans (Nat.le_add_left 1 _) hfuel)
  rw [skipValue, skipValue]
  rcases h.cases with ⟨hcs, -⟩ | ⟨c, t, t', m, hcs, hcs', rfl, hrest⟩
  · rw [hcs]
    exact follows_error _
  rw [hcs, hcs']
  split
  · exact follows_error _
  iterate 3
    next heq =>
      cases heq
      exact (readLiteral_follows (by decide) hrest).mono fun _ _ => Rest.mono
  · next heq =>
    cases heq
    exact (skipString_follows hrest (by omega)).mono fun _ _ => Rest.mono
  · next heq =>
    cases heq
    exact (skipNumber_follows hrest).mono fun _ _ => Rest.mono
  · next heq =>
    cases heq
    simp only
    have hspace := hrest.skipSpace.skipSpace
    rcases hrest.skipSpace.cases with ⟨ht, -⟩ | ⟨d, u, u', k, ht, ht', rfl, hitems⟩
    · rw [ht]
      exact follows_error _
    rw [ht, ht'] at hspace ⊢
    split
    · exact follows_error _
    · next heq =>
      cases heq
      exact follows_ok hitems.mono.mono
    · next hclose =>
      have hclose' : ∀ rest, d :: u' = ']' :: rest → False := by
        rintro rest ⟨⟩
        exact hclose u rfl
      simp only
      exact (ih.items hspace (by omega)).mono fun _ _ => Rest.mono
  · next heq =>
    cases heq
    simp only
    have hspace := hrest.skipSpace.skipSpace
    rcases hrest.skipSpace.cases with ⟨ht, -⟩ | ⟨d, u, u', k, ht, ht', rfl, hmembers⟩
    · rw [ht]
      exact follows_error _
    rw [ht, ht'] at hspace ⊢
    split
    · exact follows_error _
    · next heq =>
      cases heq
      exact follows_ok hmembers.mono.mono
    · next hclose =>
      have hclose' : ∀ rest, d :: u' = '}' :: rest → False := by
        rintro rest ⟨⟩
        exact hclose u rfl
      simp only
      exact (ih.members hspace (by omega)).mono fun _ _ => Rest.mono
  · next heq =>
    cases heq
    simp only
    split
    · rw [hcs, hcs'] at h
      exact skipNumber_follows h
    · exact follows_error _

theorem PassingFollows.items_succ (ih : PassingFollows src fuel)
    (h : Rest n (skipSpace cs) (skipSpace cs')) (hfuel : 2 * n + 2 ≤ fuel') :
    Follows (Rest n) (skipItems src (fuel + 1) cs) (skipItems src fuel' cs') := by
  obtain ⟨fuel', rfl⟩ := Nat.exists_eq_add_of_le' (Nat.le_trans (Nat.le_add_left 1 _) hfuel)
  rw [skipItems, skipItems]
  refine (ih.value h (by omega)).bind fun rest rest' hvalue => ?_
  rcases hvalue.skipSpace.cases with ⟨hcs, -⟩ | ⟨_, t, t', m, hcs, hcs', rfl, h₁⟩
  · rw [hcs]
    exact follows_error _
  rw [hcs, hcs']
  split
  · exact follows_error _
  · next heq =>
    cases heq
    exact follows_ok h₁.mono
  · next heq =>
    cases heq
    exact (ih.items h₁.skipSpace (by omega)).mono fun _ _ => Rest.mono
  · exact follows_error _

theorem PassingFollows.members_succ (ih : PassingFollows src fuel)
    (h : Rest n (skipSpace cs) (skipSpace cs')) (hfuel : 2 * n + 2 ≤ fuel') :
    Follows (Rest n) (skipMembers src (fuel + 1) cs) (skipMembers src fuel' cs') := by
  obtain ⟨fuel', rfl⟩ := Nat.exists_eq_add_of_le' (Nat.le_trans (Nat.le_add_left 1 _) hfuel)
  rw [skipMembers, skipMembers]
  rcases h.cases with ⟨hcs, -⟩ | ⟨_, t, t', m, hcs, hcs', rfl, h₁⟩
  · rw [hcs]
    exact follows_error _
  rw [hcs, hcs']
  split
  · exact follows_error _
  · next heq =>
    cases heq
    refine (skipString_follows h₁ (by omega)).bind fun rest rest' hkey => ?_
    rcases hkey.skipSpace.cases with ⟨ht, -⟩ | ⟨_, u, u', k, ht, ht', rfl, h₂⟩
    · rw [ht]
      exact follows_error _
    rw [ht, ht']
    split
    · exact follows_error _
    · next heq =>
      cases heq
      refine (ih.value h₂.skipSpace (by omega)).bind fun left left' hvalue => ?_
      rcases hvalue.skipSpace.cases with ⟨hu, -⟩ | ⟨_, w, w', l, hu, hu', rfl, h₃⟩
      · rw [hu]
        exact follows_error _
      rw [hu, hu']
      split
      · exact follows_error _
      · next heq =>
        cases heq
        exact follows_ok h₃.mono.mono.mono
      · next heq =>
        cases heq
        refine (ih.members h₃.skipSpace (by omega)).mono fun _ _ h => h.mono.mono.mono
      · exact follows_error _
    · exact follows_error _
  · exact follows_error _

theorem passingFollows (src : Source) (fuel : Nat) : PassingFollows src fuel := by
  induction fuel with
  | zero =>
    exact ⟨fun _ _ => follows_error _, fun _ _ => follows_error _, fun _ _ => follows_error _⟩
  | succ fuel ih => exact ⟨ih.value_succ, ih.items_succ, ih.members_succ⟩

end

/-! ## Forms -/

/-- A form for which four units of fuel for each character are enough, and so many besides. -/
inductive Form.Within : Nat → Form → Prop where
  | any {k : Nat} : 2 ≤ k → Within k .any
  | text {k : Nat} : 2 ≤ k → Within k .text
  | integer {k : Nat} : 2 ≤ k → Within k .integer
  | nullable {k : Nat} {form : Form} : Within k form → Within (k + 1) (.nullable form)
  | record {k : Nat} {name : String} {fields : List (String × Form × Bool)} :
      (∀ field ∈ fields, Within k field.2.1) → Within (k + fields.length + 1) (.record name fields)

theorem Form.Within.pos {k : Nat} {form : Form} (h : form.Within k) : 0 < k := by
  cases h <;> omega

/-- The readers of forms, of fields and of places follow themselves. -/
structure FormsFollow (src : Source) (fuel : Nat) : Prop where
  form {n k fuel' depth : Nat} {form : Form} {cs cs' : List Char} : form.Within k →
    Rest n (skipSpace cs) (skipSpace cs') → 4 * n + k ≤ fuel' →
    Follows (Same n) (readForm src fuel depth form cs) (readForm src fuel' depth form cs')
  fields {n k fuel' depth : Nat} {fields : List (String × Form × Bool)} {first : Bool}
    {read : Members} {cs cs' : List Char} : (∀ field ∈ fields, field.2.1.Within k) →
    Rest n (skipSpace cs) (skipSpace cs') → 4 * n + k + 2 ≤ fuel' →
    Follows (Same n) (readFields src fuel depth fields first read cs)
      (readFields src fuel' depth fields first read cs')
  places {n k fuel' depth : Nat} {shape : String} {fields : List (String × Form × Bool)}
    {place : Nat} {cs cs' : List Char} : (∀ field ∈ fields, field.2.1.Within k) →
    Rest n cs cs' → 4 * n + k + fields.length + 1 ≤ fuel' →
    Follows (Same n) (readPlaces src fuel depth shape fields place cs)
      (readPlaces src fuel' depth shape fields place cs')

section

variable {src : Source} {n k fuel fuel' depth : Nat} {fields : List (String × Form × Bool)}
  {cs cs' : List Char}

theorem within_of_fieldForm? {name : String} {form : Form}
    (hfields : ∀ field ∈ fields, field.2.1.Within k) (h : fieldForm? name fields = some form) :
    form.Within k := by
  obtain ⟨field, hfield, rfl⟩ := Option.map_eq_some_iff.mp h
  exact hfields field (List.mem_of_find?_eq_some hfield)

theorem follows_refuseText {α β : Type} {R : α → β → Prop} {expected : String}
    {y : Except FormFault β} : Follows R (refuseText src fuel expected cs) y := by
  intro a ha
  exact absurd ha refuseText_ne_ok

theorem FormsFollow.fields_succ {first : Bool} {read : Members} (ih : FormsFollow src fuel)
    (hfields : ∀ field ∈ fields, field.2.1.Within k)
    (h : Rest n (skipSpace cs) (skipSpace cs')) (hfuel : 4 * n + k + 2 ≤ fuel') :
    Follows (Same n) (readFields src (fuel + 1) depth fields first read cs)
      (readFields src fuel' depth fields first read cs') := by
  obtain ⟨fuel', rfl⟩ := Nat.exists_eq_add_of_le' (Nat.le_trans (Nat.le_add_left 1 _) hfuel)
  unfold readFields
  rcases h.cases with ⟨hcs, -⟩ | ⟨c, t, t', m, hcs, hcs', rfl, h₁⟩
  · rw [hcs]
    exact follows_error _
  rw [hcs, hcs']
  dsimp only
  -- In front of a name stands a quote, and before it a comma unless the name is the first.
  split
  case h_1 => exact follows_error _
  case h_2 heq =>
    cases heq
    exact follows_ok ⟨rfl, h₁.mono⟩
  case h_4 => exact follows_error _
  case h_6 => exact follows_error _
  case' h_3 heq =>
    cases heq
    have hquote := h₁.mono
  case' h_5 heq =>
    cases heq
    simp only
    rcases h₁.skipSpace.cases with ⟨ht, -⟩ | ⟨d, u, u', j, ht, ht', rfl, h₂⟩
    · rw [ht]
      exact follows_error _
    rw [ht, ht']
    split
    case h_1 => exact follows_error _
    case h_3 => exact follows_error _
    case h_4 => exact follows_error _
    case' h_2 heq =>
      cases heq
      have hquote := h₂.mono.mono
  all_goals
    simp only [ok_bind]
    refine (readString_follows hquote (by omega)).asText.bind ?_
    rintro ⟨name, rest⟩ ⟨_, rest'⟩ ⟨rfl, hname⟩
    dsimp only
    split
    · exact follows_error _
    rcases hname.skipSpace.cases with ⟨hv, -⟩ | ⟨_, v, v', l, hv, hv', hl, h₃⟩
    · rw [hv]
      exact follows_error _
    obtain rfl := Nat.succ.inj hl
    rw [hv, hv']
    split
    · exact follows_error _
    · next heq hform =>
      cases heq
      simp only [hform]
      refine (ih.form (within_of_fieldForm? hfields hform) h₃.skipSpace (by omega)).bind ?_
      rintro ⟨x, left⟩ ⟨_, left'⟩ ⟨rfl, hleft⟩
      exact (ih.fields hfields hleft.skipSpace (by omega)).mono fun _ _ => Same.mono
    · next heq hform =>
      cases heq
      simp only [hform]
      refine ((passingFollows src fuel).value h₃.skipSpace (by omega)).asText.bind ?_
      intro left left' hleft
      exact (ih.fields hfields hleft.skipSpace (by omega)).mono fun _ _ => Same.mono
    · exact follows_error _

theorem FormsFollow.places_succ {shape : String} {place : Nat} (ih : FormsFollow src fuel)
    (hfields : ∀ field ∈ fields, field.2.1.Within k) (h : Rest n cs cs')
    (hfuel : 4 * n + k + fields.length + 1 ≤ fuel') :
    Follows (Same n) (readPlaces src (fuel + 1) depth shape fields place cs)
      (readPlaces src fuel' depth shape fields place cs') := by
  obtain ⟨fuel', rfl⟩ := Nat.exists_eq_add_of_le' (Nat.le_trans (Nat.le_add_left 1 _) hfuel)
  rcases fields with _ | ⟨⟨name, form, needed⟩, fields⟩
  · rw [readPlaces, readPlaces]
    exact follows_ok ⟨rfl, h⟩
  have hhead : form.Within k := hfields _ (List.mem_cons_self ..)
  have hrest : ∀ field ∈ fields, field.2.1.Within k :=
    fun field hfield => hfields field (List.mem_cons_of_mem _ hfield)
  rw [List.length_cons] at hfuel
  unfold readPlaces
  rcases h.skipSpace.cases with ⟨hcs, -⟩ | ⟨c, t, t', m, hcs, hcs', rfl, h₁⟩
  · rw [hcs]
    exact follows_error _
  rw [hcs, hcs']
  dsimp only
  split
  case h_1 => exact follows_error _
  case h_2 heq =>
    cases heq
    simp only [ok_bind]
    split
    · exact follows_error _
    · exact ih.places hrest h (by omega)
  case h_5 => exact follows_error _
  case' h_3 hclose =>
    have hclose' : ∀ tail, c :: t' = ']' :: tail → False := by
      rintro tail ⟨⟩
      exact hclose t rfl
    have hvalue := h.skipSpace.skipSpace
    rw [hcs, hcs'] at hvalue
  case' h_4 heq hplace =>
    cases heq
    simp only
    split
    case h_1 => exact follows_error _
    case h_2 => exact follows_error _
    case' h_3 hend hclose =>
      have hend' := h₁.skipSpace.alike.ne_nil hend
      have hclose' := h₁.skipSpace.alike.ne_cons (by decide) hclose
      have hvalue := h₁.skipSpace.skipSpace.mono
  all_goals
    simp only [ok_bind]
    refine (ih.form hhead hvalue (by omega)).bind ?_
    rintro ⟨v, left⟩ ⟨_, left'⟩ ⟨rfl, hleft⟩
    refine (ih.places hrest hleft (by omega)).bind ?_
    rintro ⟨ms, left⟩ ⟨_, left'⟩ ⟨rfl, hleft⟩
    exact follows_ok ⟨rfl, hleft⟩

theorem readText_follows (h : Rest n (skipSpace cs) (skipSpace cs')) (hfuel : n ≤ fuel') :
    Follows (Same n) (readForm src (fuel + 1) depth .text cs)
      (readForm src (fuel' + 1) depth .text cs') := by
  rw [readForm.eq_def, readForm.eq_def]
  dsimp only
  split
  · next hcs =>
    rw [hcs] at h
    obtain ⟨m, t, rfl, hcs', hrest⟩ := h.of_cons (by decide)
    rw [hcs']
    refine (readString_follows hrest (Nat.le_of_succ_le hfuel)).asText.bind ?_
    rintro ⟨s, rest⟩ ⟨_, rest'⟩ ⟨rfl, hleft⟩
    exact follows_ok ⟨rfl, hleft.mono⟩
  · exact follows_refuseText

theorem readInteger_follows (h : Rest n (skipSpace cs) (skipSpace cs')) :
    Follows (Same n) (readForm src (fuel + 1) depth .integer cs)
      (readForm src (fuel' + 1) depth .integer cs') := by
  have hfits {x y : Except TextFault (Number × List Char)} (hxy : Follows (Same n) x y) :
      Follows (Same n)
        (asText x >>= fun p =>
          ((Decoder.i64 (.num p.1)).mapError .content >>= fun i =>
            .ok (Json.ofInt i, p.2) : Except FormFault (Json × List Char)))
        (asText y >>= fun p =>
          (Decoder.i64 (.num p.1)).mapError .content >>= fun i => .ok (Json.ofInt i, p.2)) := by
    refine hxy.asText.bind ?_
    rintro ⟨number, rest⟩ ⟨_, rest'⟩ ⟨rfl, hleft⟩
    rcases (Decoder.i64 (.num number)).mapError FormFault.content with e | i
    · exact follows_error _
    · exact follows_ok ⟨rfl, hleft⟩
  rw [readForm.eq_def, readForm.eq_def]
  dsimp only
  rcases h.cases with ⟨hcs, -⟩ | ⟨c, t, t', m, hcs, hcs', rfl, hrest⟩
  · rw [hcs]
    exact follows_error _
  rw [hcs, hcs'] at h ⊢
  split
  · next heq =>
    cases heq
    exact hfits ((readNumber_follows true hrest).mono fun _ _ => Same.mono)
  · exact follows_error _
  · next heq =>
    cases heq
    simp only
    split
    · exact hfits (readNumber_follows false h)
    · exact follows_refuseText

theorem FormsFollow.nullable_succ {form : Form} (ih : FormsFollow src fuel) (hform : form.Within k)
    (h : Rest n (skipSpace cs) (skipSpace cs')) (hfuel : 4 * n + k ≤ fuel') :
    Follows (Same n) (readForm src (fuel + 1) depth (.nullable form) cs)
      (readForm src (fuel' + 1) depth (.nullable form) cs') := by
  rw [readForm.eq_def, readForm.eq_def]
  dsimp only
  split
  · next hcs =>
    rw [hcs] at h
    obtain ⟨m, t, rfl, hcs', hrest⟩ := h.of_cons (by decide)
    rw [hcs']
    refine (readLiteral_follows (by decide) hrest).asText.bind fun _ _ hleft => ?_
    exact follows_ok ⟨rfl, hleft.mono⟩
  · next hn =>
    have hn' := h.alike.ne_cons (by decide) hn
    simp only
    exact ih.form hform h.skipSpace hfuel

theorem FormsFollow.record_succ {name : String} (ih : FormsFollow src fuel)
    (hfields : ∀ field ∈ fields, field.2.1.Within k)
    (h : Rest n (skipSpace cs) (skipSpace cs')) (hfuel : 4 * n + (k + fields.length) ≤ fuel') :
    Follows (Same n) (readForm src (fuel + 1) depth (.record name fields) cs)
      (readForm src (fuel' + 1) depth (.record name fields) cs') := by
  rw [readForm.eq_def, readForm.eq_def]
  dsimp only
  rcases h.cases with ⟨hcs, -⟩ | ⟨c, t, t', m, hcs, hcs', rfl, hrest⟩
  · rw [hcs]
    exact follows_refuseText
  rw [hcs, hcs']
  split
  · next heq =>
    cases heq
    simp only
    split
    · exact follows_error _
    refine (ih.fields hfields hrest.skipSpace (by omega)).bind ?_
    rintro ⟨ms, rest⟩ ⟨_, rest'⟩ ⟨rfl, hleft⟩
    dsimp only
    split
    · exact follows_error _
    · exact follows_ok ⟨rfl, hleft.mono⟩
  · next heq =>
    cases heq
    simp only
    split
    · exact follows_error _
    refine (ih.places hfields hrest (by omega)).bind ?_
    rintro ⟨ms, rest⟩ ⟨_, rest'⟩ ⟨rfl, hleft⟩
    dsimp only
    split
    · exact follows_error _
    · next hclose =>
      rcases hleft.skipSpace.cases with ⟨ht, -⟩ | ⟨d, u, u', j, ht, ht', rfl, hlast⟩
      · cases hclose.symm.trans ht
      · cases hclose.symm.trans ht
        rw [ht']
        exact follows_ok ⟨rfl, hlast.mono.mono⟩
    · split <;> exact follows_error _
    · exact follows_error _
  · exact follows_refuseText

theorem FormsFollow.form_succ {form : Form} (ih : FormsFollow src fuel) (hform : form.Within k)
    (h : Rest n (skipSpace cs) (skipSpace cs')) (hfuel : 4 * n + k ≤ fuel') :
    Follows (Same n) (readForm src (fuel + 1) depth form cs)
      (readForm src fuel' depth form cs') := by
  obtain ⟨fuel', rfl⟩ : ∃ f, fuel' = f + 1 := ⟨fuel' - 1, by have := hform.pos; omega⟩
  cases hform with
  | any hk =>
    rw [readForm, readForm]
    exact ((valuesFollow src fuel).value h (by omega)).asText
  | text hk => exact readText_follows h (by omega)
  | integer hk => exact readInteger_follows h
  | nullable hform => exact ih.nullable_succ hform h (by omega)
  | record hfields => exact ih.record_succ hfields h (by omega)

theorem formsFollow (src : Source) (fuel : Nat) : FormsFollow src fuel := by
  induction fuel with
  | zero =>
    refine ⟨fun _ _ _ => ?_, fun _ _ _ => ?_, fun _ _ _ => ?_⟩
    · rw [readForm]
      exact follows_error _
    · rw [readFields]
      exact follows_error _
    · rw [readPlaces]
      exact follows_error _
  | succ fuel ih => exact ⟨ih.form_succ, ih.fields_succ, ih.places_succ⟩

/-- Where a text holds a value of a form, so does one that is alike. -/
theorem parseForm_eq_ok_of_alike {form : Form} {v : Json} (hform : form.Within 16)
    (halike : Alike (skipSpace cs) (skipSpace cs')) (h : parseForm src form cs = .ok v) :
    parseForm src form cs' = .ok v := by
  have hlength : (skipSpace cs').length ≤ cs'.length := (List.dropWhile_sublist _).length_le
  obtain ⟨⟨value, rest⟩, hread, hend⟩ := bind_eq_ok_iff.mp h
  obtain ⟨⟨_, rest'⟩, hread', rfl, hrest⟩ := (formsFollow src (4 * cs.length + 16)).form
    hform ⟨halike, Nat.le_refl _⟩ (Nat.add_le_add_right (Nat.mul_le_mul_left 4 hlength) 16)
    _ hread
  refine bind_eq_ok_iff.mpr ⟨_, hread', ?_⟩
  have hfinish := mapError_eq_ok_iff.mp hend
  simp only [finish] at hfinish
  split at hfinish
  · next hblank =>
    rcases hrest.skipSpace.cases with ⟨-, hrest'⟩ | ⟨_, _, _, _, hcons, -⟩
    · cases hfinish
      simp [finish, asText, Except.mapError, hrest']
    · rw [hcons] at hblank
      cases hblank
  · cases hfinish

/-- **Blanks after line feeds make no difference.** Of two texts that are alike after the blanks at
their fronts, one holds a value of a form exactly if the other does. -/
theorem parseForm_eq_ok_iff_of_alike {form : Form} {v : Json} (hform : form.Within 16)
    (h : Alike (skipSpace cs) (skipSpace cs')) :
    parseForm src form cs = .ok v ↔ parseForm src form cs' = .ok v :=
  ⟨parseForm_eq_ok_of_alike hform h, parseForm_eq_ok_of_alike hform h.symm⟩

end

end Dialogue.Json
