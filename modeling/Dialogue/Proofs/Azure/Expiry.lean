import Dialogue.Azure.Backend
import Dialogue.Proofs.Azure.TokenStore

/-!
# Expiries too early for the margin

A token is asked for whether it expires within five minutes by going back five minutes from its
expiry. There is nowhere to go back to in the first five minutes of all instants, and the tool may
print such an expiry: it is accepted as any other. The call that fetched the token gives it; the
next call for the scope, at whatever instant, has no outcome but `expiryOutOfRange`, and so has
every call after it, since a token is replaced only when it is known to be about to expire. An agent
that makes such a call crashes (`header_eq_crashed_iff`) and sends nothing (`complete_of_crashed`).

Main statement: `ask_eq_expiryOutOfRange_iff`. Its parts are `refreshable_iff` (one expiry),
`ask_cases` (one call), `lookup_history` (calls one after another) and `lookup_history_append`
(calls after a token that cannot be replaced).
-/

namespace Dialogue

namespace Time.Instant

theorem isSome_make?_iff {seconds : Int} {nanos : Nat} :
    (make? seconds nanos).isSome = true ↔ (minSeconds ≤ seconds ∧ seconds ≤ maxSeconds) ∧
      (nanos < 1000000000 ∨ (nanos < 2000000000 ∧ seconds % 60 = 59)) := by
  unfold make?
  split
  · next h => exact iff_of_true rfl h
  · next h => exact iff_of_false (by simp) h

end Time.Instant

namespace Azure

open Time (minSeconds maxSeconds)

variable {σ : Type} {az : Command σ} {zone : Time.Zone} {now : Time.Instant} {scope : String}

namespace AccessToken

/-- The instant that is the margin before an expiry exists if the expiry comes no sooner than five
minutes after the first instant. -/
theorem refreshable_iff {t : AccessToken} :
    t.Refreshable ↔
      (minSeconds + 300) * 1000000000 ≤ t.expiresOn.seconds * 1000000000 + t.expiresOn.nanos := by
  obtain ⟨⟨hmin, hmax⟩, hleap⟩ := And.intro t.expiresOn.bounded t.expiresOn.leap
  unfold Refreshable Time.Instant.earlier? refreshMargin
  split
  · rw [Time.Instant.isSome_make?_iff]
    omega
  · rw [if_neg (by decide), if_pos (by decide), Time.Instant.isSome_make?_iff]
    omega

theorem isSome_expiresWithin?_iff {t : AccessToken} :
    (t.expiresWithin? refreshMargin now).isSome = true ↔ t.Refreshable := by
  rw [expiresWithin?, Option.isSome_map, Refreshable]

end AccessToken

namespace TokenStore

/-! ## One call -/

theorem kept_of_not_refreshable {store : TokenStore} {t : AccessToken}
    (h : Table.lookup scope store = some t) (ht : ¬t.Refreshable) :
    kept store scope now = .expiryOutOfRange := by
  have hnone : t.expiresWithin? refreshMargin now = none := by
    rw [← Option.not_isSome_iff_eq_none, AccessToken.isSome_expiresWithin?_iff]
    exact ht
  simp only [kept, h, hnone]

/-- A call either comes upon a token that cannot be replaced, and the state stays as it was, or it
gives something. -/
theorem ask_cases (az : Command σ) (zone : Time.Zone) (x : Ask) (s : State σ) :
    (∃ t, Table.lookup x.scope s.1 = some t ∧ ¬t.Refreshable ∧
      ask az zone x s = (.expiryOutOfRange, s)) ∨
    (∀ t, Table.lookup x.scope s.1 = some t → t.Refreshable) ∧
      Gives az zone x s (ask az zone x s).1 (ask az zone x s).2 := by
  by_cases hs : ∀ t, Table.lookup x.scope s.1 = some t → t.Refreshable
  · exact .inr ⟨hs, gives_ask hs⟩
  · push Not at hs
    obtain ⟨t, hlookup, ht⟩ := hs
    refine .inl ⟨t, hlookup, ht, ?_⟩
    simp only [ask, token, kept_of_not_refreshable hlookup ht]

theorem Gives.ne_expiryOutOfRange {s s' : State σ} {x : Ask} {o : TokenOutcome}
    (h : Gives az zone x s o s') : o ≠ .expiryOutOfRange := by
  cases h <;> simp

/-- A call has no outcome if a token that cannot be replaced is kept for its scope. -/
theorem ask_eq_expiryOutOfRange_iff_lookup {x : Ask} {s : State σ} :
    (ask az zone x s).1 = .expiryOutOfRange ↔
      ∃ t, Table.lookup x.scope s.1 = some t ∧ ¬t.Refreshable := by
  rcases ask_cases az zone x s with ⟨t, hlookup, ht, hask⟩ | ⟨hs, hgives⟩
  · exact iff_of_true (congrArg Prod.fst hask) ⟨t, hlookup, ht⟩
  · exact iff_of_false hgives.ne_expiryOutOfRange fun ⟨t, hlookup, ht⟩ => ht (hs t hlookup)

theorem token_eq_expiryOutOfRange_iff {store : TokenStore} {w : σ} :
    (token store az zone now scope w).1 = .expiryOutOfRange ↔
      ∃ t, Table.lookup scope store = some t ∧ ¬t.Refreshable := by
  rw [token_recorded az zone now scope store [] w]
  exact ask_eq_expiryOutOfRange_iff_lookup (x := ⟨scope, now⟩) (s := (store, [], w))

/-! ## Calls one after another -/

/-- Whatever the tool prints, the store keeps for a scope the token that was fetched for it last. -/
theorem lookup_history (az : Command σ) (zone : Time.Zone) (asks : List Ask) (w : σ)
    (scope : String) :
    Table.lookup scope (history az zone asks w).1 =
      (fetchedFor zone scope (history az zone asks w).2.1).getLast? := by
  -- The induction is on the calls from the last one back. A call without an outcome changes
  -- nothing.
  induction asks using List.reverseRecOn generalizing scope with
  | nil => rfl
  | append_singleton asks x ih =>
    rw [history_snoc]
    rcases ask_cases az zone x (history az zone asks w) with ⟨t, -, -, hask⟩ | ⟨-, hgives⟩
    · rw [hask]
      exact ih scope
    · exact hgives.lookup ih scope

/-- A token that cannot be replaced stays, whatever is asked for. -/
theorem lookup_ask_of_not_refreshable {s : State σ} {t : AccessToken}
    (h : Table.lookup scope s.1 = some t) (ht : ¬t.Refreshable) (x : Ask) :
    Table.lookup scope (ask az zone x s).2.1 = some t := by
  rcases ask_cases az zone x s with ⟨t', -, -, hask⟩ | ⟨hs, hgives⟩
  · rw [hask]
    exact h
  · generalize (ask az zone x s).1 = o, (ask az zone x s).2 = s' at hgives
    cases hgives with
    | kept _ _ => exact h
    | refused _ _ => exact h
    | fetched _ _ _ _ =>
      -- A token is fetched only in the place of one that can be replaced, so for another scope.
      have hscope : scope ≠ x.scope := fun heq => ht (hs t (heq ▸ h))
      rw [Table.lookup_insert_of_ne _ _ hscope]
      exact h
    | failed _ _ _ _ => exact h

theorem lookup_history_append (asks more : List Ask) (w : σ) {t : AccessToken}
    (h : Table.lookup scope (history az zone asks w).1 = some t) (ht : ¬t.Refreshable) :
    Table.lookup scope (history az zone (asks ++ more) w).1 = some t := by
  induction more using List.reverseRecOn with
  | nil => rwa [List.append_nil]
  | append_singleton more x ih =>
    rw [← List.append_assoc, history_snoc]
    exact lookup_ask_of_not_refreshable ih ht x

/-- **Which calls have no outcome.** After any calls, at any instants and whatever the tool printed,
a call has no outcome if and only if the token that was fetched last for its scope expires sooner
than five minutes after the first instant. Then no later call for the scope has an outcome, whatever
is asked for in between. -/
theorem ask_eq_expiryOutOfRange_iff (az : Command σ) (zone : Time.Zone) (asks : List Ask) (w : σ)
    (x : Ask) :
    let s := history az zone asks w
    ((ask az zone x s).1 = .expiryOutOfRange ↔
      ∃ t, (fetchedFor zone x.scope s.2.1).getLast? = some t ∧
        t.expiresOn.seconds * 1000000000 + t.expiresOn.nanos <
          (minSeconds + 300) * 1000000000) ∧
    ((ask az zone x s).1 = .expiryOutOfRange → ∀ more now,
      (ask az zone ⟨x.scope, now⟩ (history az zone (asks ++ more) w)).1 =
        .expiryOutOfRange) := by
  intro s
  refine ⟨?_, fun h more now => ?_⟩
  · rw [ask_eq_expiryOutOfRange_iff_lookup, lookup_history]
    simp only [AccessToken.refreshable_iff, Int.not_le, s]
  · obtain ⟨t, hlookup, ht⟩ := ask_eq_expiryOutOfRange_iff_lookup.mp h
    exact ask_eq_expiryOutOfRange_iff_lookup.mpr
      ⟨t, lookup_history_append asks more w hlookup ht, ht⟩

/-! ## The earliest expiry -/

/-- What the tool prints of a token that expires at the first instant. -/
def earliestPrintout : String :=
  "\x7b\"accessToken\":\"t\",\"expires_on\":-8334601228800\x7d"

/-- The token in it. -/
def earliest : AccessToken :=
  ⟨"t", minSeconds, 0, by decide, .inl (by decide)⟩

/-- A tool that always prints it. -/
def printingEarliest : Command Unit :=
  fun _ w => (.finished 0 (earliestPrintout.toList.map Char.toNat) [], w)

theorem tokenOf_printingEarliest (zone : Time.Zone) (arguments : List String) (w : Unit) :
    tokenOf zone (printingEarliest arguments w).1 = .ok earliest := by
  have hchars : (earliestPrintout.toList.map Char.toNat).map Char.ofNat =
      earliestPrintout.toList := by
    decide +kernel
  have hparse : Json.parseForm .octets printedForm earliestPrintout.toList =
      .ok (.obj [("accessToken", .str "t"), ("expires_on", .ofInt (-8334601228800))]) := by
    decide +kernel
  rw [printingEarliest, tokenOf, readToken, hchars, hparse]
  rfl

theorem not_refreshable_earliest : ¬earliest.Refreshable := by
  rw [AccessToken.refreshable_iff]
  decide

/-- The tool prints an expiry that is an instant: the token is accepted and given, and the next call
has no outcome, whenever it comes. -/
theorem ask_again_earliest :
    let zone := Time.Zone.fixed 0
    readToken zone (earliestPrintout.toList.map Char.toNat) = .ok earliest ∧
    (ask printingEarliest zone ⟨"s", .start⟩ (history printingEarliest zone [] ())).1 =
      .token earliest ∧
    ∀ now, earliest.expiresWithin? refreshMargin now = none ∧
      (ask printingEarliest zone ⟨"s", now⟩
        (history printingEarliest zone [⟨"s", .start⟩] ())).1 = .expiryOutOfRange := by
  intro zone
  have hfetch : ask printingEarliest zone ⟨"s", .start⟩ (history printingEarliest zone [] ()) =
      (.token earliest, [("s", earliest)],
        (printingEarliest.recorded (tokenArguments "s") ([], ())).2) :=
    token_of_ok rfl (by decide) (tokenOf_printingEarliest zone (tokenArguments "s") ())
  refine ⟨tokenOf_printingEarliest zone [] (), by rw [hfetch], fun now => ⟨?_, ?_⟩⟩
  · rw [← Option.not_isSome_iff_eq_none, AccessToken.isSome_expiresWithin?_iff]
    exact not_refreshable_earliest
  · refine ask_eq_expiryOutOfRange_iff_lookup.mpr ⟨earliest, ?_, not_refreshable_earliest⟩
    rw [← List.nil_append [_], history_snoc, hfetch]
    rfl

end TokenStore

/-! ## Requests to the service -/

section

variable {ω : Type} {outside : Outside ω} {w : World ω}

/-- The agent crashes when it asks to be let in if and only if it uses the command line tool and
holds a token for the service that cannot be replaced. -/
theorem header_eq_crashed_iff {auth : Auth} :
    (auth.header outside w).1 = .crashed ↔ auth = .bearer .commandLine ∧
      ∃ t, Table.lookup serviceScope w.tokens = some t ∧ ¬t.Refreshable := by
  rcases auth with key | token | -
  · exact iff_of_false nofun nofun
  · exact iff_of_false nofun nofun
  · have hcrash : ((Auth.bearer .commandLine).header outside w).1 = .crashed ↔
        (w.tokens.token outside.az outside.zone (outside.clock w.outside) serviceScope
          w.outside).1 = .expiryOutOfRange := by
      simp only [Auth.header, Credential.token]
      split
      next htoken => simp [htoken]
      next hfailed => simp [hfailed]
      next hrange => simp [hrange]
    rw [hcrash, TokenStore.token_eq_expiryOutOfRange_iff]
    exact ⟨fun h => ⟨rfl, h⟩, And.right⟩

/-- An agent that crashes sends nothing, and what it holds stays as it was. -/
theorem complete_of_crashed {auth : Auth} (d : Deployment) (r : Request)
    (h : (auth.header outside w).1 = .crashed) :
    (backend outside d auth).complete r w = (.absent, { w with crashed := true }) := by
  obtain ⟨rfl, t, hlookup, ht⟩ := header_eq_crashed_iff.mp h
  simp only [backend, Auth.header, Credential.token, TokenStore.token,
    TokenStore.kept_of_not_refreshable hlookup ht]

end

end Azure

end Dialogue
