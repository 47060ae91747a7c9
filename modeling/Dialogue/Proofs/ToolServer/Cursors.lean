import Dialogue.Proofs.ToolServer.Paging
import Dialogue.Proofs.ToolServer.Replies
import Mathlib.Data.Finset.Card

/-!
# Servers that answer by cursors

A server may give pages by their cursors alone. A listing then follows the cursors from page to
page, and it makes all the difference whether the server gives a cursor twice on the way. If it does
not, the listing ends, for it asks no more often than there are cursors, and once without one. If it
does, then the listing goes round without end, as a client does not remember which cursors it has
asked for. `asked` is the way that a listing takes.

Main statement: `list_by_cursors`; `not_list_of_one_cursor` is a server that is asked without end.
-/

namespace Dialogue.ToolServer

open Http (Exchange Sent Network)
open Client (Listing pageParams)

/-! ## The way through the cursors -/

variable {pages : Option String → Option Page} {cursor : Option String}

/-- The cursor at which a listing goes on after the page at a cursor. -/
def onward (pages : Option String → Option Page) (cursor : Option String) :
    Option (Option String) :=
  (pages cursor).bind fun p => p.next?.map some

/-- The cursor that a listing asks for when it has turned so many pages from a cursor on, if it goes
on for so long. -/
def asked (pages : Option String → Option Page) : (turns : Nat) → Option String →
    Option (Option String)
  | 0, cursor => some cursor
  | turns + 1, cursor => (onward pages cursor).bind (asked pages turns)

theorem asked_add (m n : Nat) (cursor : Option String) :
    asked pages (m + n) cursor = (asked pages m cursor).bind (asked pages n) := by
  induction m generalizing cursor with
  | zero => rw [Nat.zero_add]; rfl
  | succ m ih =>
    rw [Nat.succ_add, asked, asked, Option.bind_assoc]
    exact Option.bind_congr fun next _ => ih next

/-- A way that has come so far came less far before. -/
theorem asked_ne_none_of_le {m n : Nat} (h : asked pages n cursor ≠ none) (hle : m ≤ n) :
    asked pages m cursor ≠ none := by
  obtain ⟨k, rfl⟩ := Nat.exists_eq_add_of_le hle
  rw [asked_add] at h
  exact fun hnone => h (by rw [hnone]; rfl)

/-- After the first request a listing asks for cursors that it was given. -/
theorem asked_succ_eq_some {n : Nat} {start : Option String}
    (h : asked pages (n + 1) start = some cursor) :
    ∃ before p next, pages before = some p ∧ p.next? = some next ∧ cursor = some next := by
  rw [asked_add] at h
  obtain ⟨before, -, h⟩ := Option.bind_eq_some_iff.mp h
  obtain ⟨_, honward, hcursor⟩ := Option.bind_eq_some_iff.mp h
  obtain rfl := Option.some.inj hcursor
  obtain ⟨p, hp, h⟩ := Option.bind_eq_some_iff.mp honward
  obtain ⟨next, hnext, rfl⟩ := Option.map_eq_some_iff.mp h
  exact ⟨before, p, next, hp, hnext, rfl⟩

/-- A listing from the first page on is given a cursor twice. -/
def Repeats (pages : Option String → Option Page) : Prop :=
  ∃ i j cursor, i < j ∧ asked pages i none = some (some cursor) ∧
    asked pages j none = some (some cursor)

/-- A way that comes to a cursor again does not end. -/
theorem Repeats.asked_ne_none (h : Repeats pages) (n : Nat) : asked pages n none ≠ none := by
  obtain ⟨i, j, cursor, hlt, hi, hj⟩ := h
  have hround (k : Nat) : asked pages (j + k) none = asked pages (i + k) none := by
    rw [asked_add, asked_add, hi, hj]
  induction n using Nat.strongRecOn with
  | ind n ih =>
    rcases Nat.le_total n j with hle | hle
    · exact asked_ne_none_of_le (by rw [hj]; exact Option.some_ne_none _) hle
    · obtain ⟨k, rfl⟩ := Nat.exists_eq_add_of_le hle
      rw [hround]
      exact ih _ (by omega)

/-- A way that comes to no cursor again ends, after no more turns than there are cursors. -/
theorem exists_last_asked {cursors : Finset String}
    (hcursors : ∀ cursor p next, pages cursor = some p → p.next? = some next → next ∈ cursors)
    (h : ¬ Repeats pages) :
    ∃ n ≤ cursors.card, asked pages n none ≠ none ∧ asked pages (n + 1) none = none := by
  -- Otherwise there are more turns than cursors, and two of them come to the same cursor.
  have hends : ∃ n, n ≤ cursors.card ∧ asked pages (n + 1) none = none := by
    by_contra hgoes
    have hsome (n : Nat) (hn : n ≤ cursors.card) :
        ∃ cursor ∈ cursors, asked pages (n + 1) none = some (some cursor) := by
      obtain ⟨cursor, hcursor⟩ := Option.ne_none_iff_exists'.mp fun hnone => hgoes ⟨n, hn, hnone⟩
      obtain ⟨before, p, next, hp, hnext, rfl⟩ := asked_succ_eq_some hcursor
      exact ⟨next, hcursors before p next hp hnext, hcursor⟩
    choose! given hgiven hasked using hsome
    obtain ⟨i, hi, j, hj, hne, heq⟩ := Finset.exists_ne_map_eq_of_card_lt_of_maps_to
      (show cursors.card < (Finset.range (cursors.card + 1)).card by simp)
      fun n hn => hgiven n (Nat.lt_succ_iff.mp (Finset.mem_range.mp hn))
    rw [Finset.mem_range, Nat.lt_succ_iff] at hi hj
    rcases Nat.lt_or_gt_of_ne hne with hlt | hlt
    · exact h ⟨i + 1, j + 1, given i, by omega, hasked i hi, heq ▸ hasked j hj⟩
    · exact h ⟨j + 1, i + 1, given j, by omega, hasked j hj, heq ▸ hasked i hi⟩
  obtain ⟨m, hm, hnone⟩ := hends
  have hends : ∃ n, asked pages (n + 1) none = none := ⟨m, hnone⟩
  refine ⟨Nat.find hends, Nat.le_trans (Nat.find_min' hends hnone) hm, ?_, Nat.find_spec hends⟩
  rcases hfirst : Nat.find hends with _ | n
  · exact Option.some_ne_none _
  · exact Nat.find_min hends (hfirst ▸ Nat.lt_succ_self n)

/-! ## Listings -/

/-- The answer to a request for a page depends on the cursor alone: it has the page at the cursor,
and none if there is none. This is asked for ids of 64 bits, since no other ones can be repeated in
an answer. -/
def AnswersByCursor (pages : Option String → Option Page) (s : Sent) : Prop :=
  ∀ id < 2 ^ 64, ∀ cursor,
    s.request.body = some (Rpc.request (some id) "tools/list" (pageParams cursor)) →
    ∀ p, (∃ v, Serves s.answer id v ∧ Page.decode v = .ok p) ↔ pages cursor = some p

/-- What a listing from a cursor on comes to when it has turned so many pages: the tools of all of
them, or a failure if there is no page at the last cursor. -/
inductive Ends (pages : Option String → Option Page) (cursor : Option String) (turns : Nat) :
    Listing → Prop where
  | complete {ps : List Page} :
      (List.range (turns + 1)).map (fun k => (asked pages k cursor).bind pages) = ps.map some →
      Ends pages cursor turns (.complete (ps.flatMap (·.definitions)))
  | failed {detail : String} : (asked pages turns cursor).bind pages = none →
      Ends pages cursor turns (.failed (.toolServer detail))

theorem onward_of_none (h : pages cursor = none) : onward pages cursor = none := by
  rw [onward, h]
  rfl

theorem onward_of_some {p : Page} (h : pages cursor = some p) :
    onward pages cursor = p.next?.map some := by
  rw [onward, h]
  rfl

/-- A way that goes no further has turned no page. -/
theorem eq_zero_of_onward {n : Nat} (h : onward pages cursor = none)
    (hasked : asked pages n cursor ≠ none) : n = 0 := by
  cases n with
  | zero => rfl
  | succ n =>
    rw [asked, h] at hasked
    exact absurd rfl hasked

/-- A listing of one page. -/
theorem Ends.single {p : Page} (hp : pages cursor = some p) :
    Ends pages cursor 0 (.complete p.definitions) := by
  have hends : Ends pages cursor 0 (.complete ([p].flatMap (·.definitions))) :=
    .complete (congrArg (· :: []) hp)
  rwa [List.flatMap_singleton] at hends

theorem asked_succ {n : Nat} {p : Page} {next : String} (hp : pages cursor = some p)
    (hnext : p.next? = some next) : asked pages (n + 1) cursor = asked pages n (some next) := by
  rw [asked, onward_of_some hp, hnext]
  rfl

/-- The pages of a listing from the next cursor on come after the page at this cursor. -/
theorem Ends.prepend {turns : Nat} {l : Listing} {p : Page} {next : String}
    (h : Ends pages (some next) turns l) (hp : pages cursor = some p)
    (hnext : p.next? = some next) : Ends pages cursor (turns + 1) (l.prepend p.definitions) := by
  cases h with
  | @complete ps hps =>
    change Ends pages cursor _ (.complete ((p :: ps).flatMap (·.definitions)))
    refine .complete ?_
    rw [List.range_succ_eq_map, List.map_cons, List.map_map, List.map_cons, ← hps]
    refine congrArg₂ List.cons hp (List.map_congr_left fun k _ => ?_)
    rw [Function.comp_apply, asked_succ hp hnext]
  | failed hnone => exact .failed (by rw [asked_succ hp hnext]; exact hnone)

namespace Client

variable {c c' : Client} {s : Sent} {log : List Sent} {l : Listing} {fuel : Nat}

/-- A page that is asked for is the page at the cursor. -/
theorem Asks.page_iff {x : Except Failure Json}
    (h : c.Asks "tools/list" (pageParams cursor) s x) (hs : AnswersByCursor pages s)
    (hid : c.nextId < 2 ^ 64) (p : Page) :
    pages cursor = some p ↔ ∃ v, x = .ok v ∧ Page.decode v = .ok p := by
  cases h with
  | served hq hserves =>
    rw [← hs c.nextId hid cursor hq.body_eq p]
    constructor
    · rintro ⟨v', hserves', hp⟩
      exact ⟨v', congrArg _ (Serves.unique hserves hserves'), hp⟩
    · rintro ⟨_, ⟨⟩, hp⟩
      exact ⟨_, hserves, hp⟩
  | failed hq hno =>
    rw [← hs c.nextId hid cursor hq.body_eq p]
    exact ⟨fun ⟨v, hv, _⟩ => absurd hv (hno v), nofun⟩

theorem Asks.pages_eq_none {x : Except Failure Json}
    (h : c.Asks "tools/list" (pageParams cursor) s x) (hs : AnswersByCursor pages s)
    (hid : c.nextId < 2 ^ 64) (hx : ∀ v, x = .ok v → ∀ p, Page.decode v ≠ .ok p) :
    pages cursor = none :=
  Option.eq_none_iff_forall_ne_some.mpr fun p hp =>
    let ⟨v, hv, hdecode⟩ := (h.page_iff hs hid p).mp hp
    hx v hv p hdecode

/-- **One page of a listing**: it is the last one, or the listing goes on at its cursor. -/
theorem Lists.first (h : c.Lists (fuel + 1) cursor log l c')
    (hlog : ∀ s ∈ log, AnswersByCursor pages s) (hid : c.nextId < 2 ^ 64) :
    (onward pages cursor = none ∧ log.length = 1 ∧ Ends pages cursor 0 l) ∨
      ∃ s rest p next l', log = s :: rest ∧ pages cursor = some p ∧ p.next? = some next ∧
        l = l'.prepend p.definitions ∧
        (c.next.hear s.answer).Lists fuel (some next) rest l' c' := by
  cases h with
  | unserved hasks =>
    have hnone := hasks.pages_eq_none (hlog _ (List.mem_cons_self ..)) hid nofun
    exact .inl ⟨onward_of_none hnone, rfl, .failed hnone⟩
  | misread hasks hno =>
    have hnone := hasks.pages_eq_none (hlog _ (List.mem_cons_self ..)) hid
      (by rintro _ ⟨⟩; exact hno)
    exact .inl ⟨onward_of_none hnone, rfl, .failed hnone⟩
  | last hasks hp hlast =>
    have hpage := (hasks.page_iff (hlog _ (List.mem_cons_self ..)) hid _).mpr ⟨_, rfl, hp⟩
    exact .inl ⟨(onward_of_some hpage).trans (congrArg _ hlast), rfl, .single hpage⟩
  | more hasks hp hnext hrest =>
    have hpage := (hasks.page_iff (hlog _ (List.mem_cons_self ..)) hid _).mpr ⟨_, rfl, hp⟩
    exact .inr ⟨_, _, _, _, _, rfl, hpage, hnext, rfl, hrest⟩

/-- **A listing goes on** as long as its way does. -/
theorem Lists.unfinished_of_asked (h : c.Lists fuel cursor log l c')
    (hlog : ∀ s ∈ log, AnswersByCursor pages s) (hid : c.nextId + fuel ≤ 2 ^ 64)
    (hasked : asked pages fuel cursor ≠ none) : log.length = fuel ∧ l = .unfinished := by
  induction fuel generalizing c cursor log l with
  | zero =>
    cases h
    exact ⟨rfl, rfl⟩
  | succ fuel ih =>
    rcases h.first hlog (by omega) with
      ⟨hlast, -, -⟩ | ⟨s, rest, p, next, l', rfl, hpage, hnext, rfl, hrest⟩
    · exact absurd (eq_zero_of_onward hlast hasked) (Nat.succ_ne_zero _)
    · rw [asked_succ hpage hnext] at hasked
      obtain ⟨hlength, rfl⟩ := ih hrest (fun s hs => hlog s (List.mem_cons_of_mem _ hs))
        (by rw [nextId_hear]; exact (Nat.succ_add_eq_add_succ ..).le.trans hid) hasked
      exact ⟨congrArg (· + 1) hlength, rfl⟩

/-- **A listing ends** where its way does. -/
theorem Lists.ends_of_asked {turns : Nat} (h : c.Lists fuel cursor log l c')
    (hlog : ∀ s ∈ log, AnswersByCursor pages s) (hfuel : turns < fuel)
    (hid : c.nextId + turns < 2 ^ 64) (hasked : asked pages turns cursor ≠ none)
    (hend : asked pages (turns + 1) cursor = none) :
    log.length = turns + 1 ∧ Ends pages cursor turns l := by
  induction fuel generalizing c cursor log l turns with
  | zero => exact absurd hfuel (Nat.not_lt_zero _)
  | succ fuel ih =>
    rcases h.first hlog (by omega) with
      ⟨hlast, hlength, hends⟩ | ⟨s, rest, p, next, l', rfl, hpage, hnext, rfl, hrest⟩
    · obtain rfl := eq_zero_of_onward hlast hasked
      exact ⟨hlength, hends⟩
    · rw [asked_succ hpage hnext] at hend
      cases turns with
      | zero => cases hend
      | succ turns =>
        rw [asked_succ hpage hnext] at hasked
        obtain ⟨hlength, hends⟩ := ih hrest (fun s hs => hlog s (List.mem_cons_of_mem _ hs))
          (Nat.lt_of_succ_lt_succ hfuel)
          (by rw [nextId_hear]; exact (Nat.succ_add_eq_add_succ ..).trans_lt hid) hasked hend
        exact ⟨congrArg (· + 1) hlength, hends.prepend hpage hnext⟩

end Client

/-! ## Servers -/

/-- A server that replies to every request with the value at the cursor of the request, if there is
one. -/
def servedBy (values : Option String → Option Json) : Network Unit := fun q w =>
  let field (name : String) := q.body.bind (Json.get? name)
  let id := ((field "id").bind Json.int?).getD 0
  match values (((field "params").bind (Json.get? "cursor")).bind Json.text?) with
  | some v => (.ok (reply id.toNat v), w)
  | none => (.ok ⟨404, [], [], none, none⟩, w)

/-- The pages among the values of a server. -/
def pagesOf (values : Option String → Option Json) (cursor : Option String) : Option Page :=
  (values cursor).bind fun v => (Page.decode v).toOption

theorem text?_pageParams (cursor : Option String) :
    ((pageParams cursor).get? "cursor").bind Json.text? = cursor := by
  cases cursor <;> rfl

theorem answersByCursor_servedBy (values : Option String → Option Json)
    (hvalues : ∀ cursor v, values cursor = some v → v.Integral 126 ∧ v ≠ .null) (q : Http.Request)
    (w : Unit) : AnswersByCursor (pagesOf values) ⟨q, (servedBy values q w).1⟩ := by
  intro id hid cursor hbody p
  have hbody : q.body = some (Rpc.request (some id) "tools/list" (pageParams cursor)) := hbody
  have hid' : (q.body.bind (Json.get? "id")).bind Json.int? = some (id : Int) := by
    rw [hbody, Option.bind_some, Client.get?_id_request]
    rfl
  have hcursor : ((q.body.bind (Json.get? "params")).bind (Json.get? "cursor")).bind
      Json.text? = cursor := by
    rw [hbody]
    exact text?_pageParams cursor
  simp only [servedBy, hid', hcursor, pagesOf]
  rcases hv : values cursor with _ | v
  · refine ⟨?_, nofun⟩
    rintro ⟨_, ⟨_, _, ⟨⟨⟩, ⟨⟩, -⟩, -⟩, -⟩
  · obtain ⟨hintegral, hne⟩ := hvalues cursor v hv
    have hserves : Serves (.ok (reply id v)) id v :=
      serves_reply hid hintegral (by decide) hne
    constructor
    · rintro ⟨v', hserves', hp⟩
      obtain rfl := Client.Serves.unique hserves hserves'
      rw [Option.bind_some, hp]
      rfl
    · intro hp
      rcases hdecode : Page.decode v with e | p'
      · rw [Option.bind_some, hdecode] at hp
        cases hp
      · rw [Option.bind_some, hdecode] at hp
        cases hp
        exact ⟨v, hserves, hdecode⟩

/-! ## Going on and ending -/

variable {ω : Type} {net : Network ω} {c : Client} {name url : String}

/-- What a server answers in a listing, it answers by cursors. -/
theorem answersByCursor_of_mem_sent {e : Exchange (Listing × Client)} {w : ω} {s : Sent}
    (hserver : ∀ q w, AnswersByCursor pages ⟨q, (net q w).1⟩) (hs : s ∈ e.sent net w) :
    AnswersByCursor pages s := by
  obtain ⟨w', hanswer⟩ := Exchange.answer_of_mem_sent hs
  have hs := hserver s.request w'
  rw [← hanswer] at hs
  exact hs

theorem Client.SpeaksWith.lists (hopen : c.SpeaksWith name url) (fuel : Nat) (w : ω) :
    c.Lists fuel none ((c.list fuel).sent net w) ((c.list fuel).run net w).1.1
      ((c.list fuel).run net w).1.2 :=
  Client.lists_of_passes (Exchange.passes_run net (c.list fuel) w) hopen.keeps.1

/-- A server that gives a cursor twice is asked as often as may be. -/
theorem Repeats.unfinished (h : Repeats pages) (hopen : c.SpeaksWith name url)
    (hserver : ∀ q w, AnswersByCursor pages ⟨q, (net q w).1⟩) {fuel : Nat}
    (hid : c.nextId + fuel ≤ 2 ^ 64) (w : ω) :
    ((c.list fuel).sent net w).length = fuel ∧ ((c.list fuel).run net w).1.1 = .unfinished :=
  (hopen.lists fuel w).unfinished_of_asked (fun _ => answersByCursor_of_mem_sent hserver) hid
    (h.asked_ne_none fuel)

/-- **A listing from a server that answers by cursors alone.** If the server does not give a cursor
twice on the way, the listing asks for one page more than there are cursors at most, and has the
tools of all pages or fails at the last one. If the server gives a cursor twice, the listing asks
for pages as long as it is let. -/
theorem list_by_cursors (net : Network ω) (w : ω) (hopen : c.SpeaksWith name url)
    (hserver : ∀ q w, AnswersByCursor pages ⟨q, (net q w).1⟩) (cursors : Finset String)
    (hcursors : ∀ cursor p next, pages cursor = some p → p.next? = some next → next ∈ cursors) :
    (¬ Repeats pages → c.nextId + cursors.card < 2 ^ 64 →
      ∃ n ≤ cursors.card, ∀ fuel, n < fuel →
        ((c.list fuel).sent net w).length = n + 1 ∧
          Ends pages none n ((c.list fuel).run net w).1.1) ∧
    (Repeats pages → ∀ fuel, c.nextId + fuel ≤ 2 ^ 64 →
      ((c.list fuel).sent net w).length = fuel ∧
        ((c.list fuel).run net w).1.1 = .unfinished) := by
  refine ⟨fun hno hid => ?_, fun hrepeats fuel hid => hrepeats.unfinished hopen hserver hid w⟩
  obtain ⟨n, hn, hasked, hend⟩ := exists_last_asked hcursors hno
  exact ⟨n, hn, fun fuel hfuel => (hopen.lists fuel w).ends_of_asked
    (fun _ => answersByCursor_of_mem_sent hserver) hfuel (by omega) hasked hend⟩

/-- A server with two pages, of which the first gives a cursor and the second a tool. -/
def twoPages (cursor : Option String) : Option Json :=
  if cursor = none then some (Json.object [("nextCursor", .str "a")])
  else if cursor = some "a" then
    some (Json.object [("tools", .arr [Json.object [("name", .str "search")]])])
  else none

/-- The two pages are asked for, and no more. -/
theorem list_by_cursors_two_pages :
    let c : Client := { Client.fresh "docs" "http://a/" with nextId := 2 }
    ∃ n ≤ 1, ∀ fuel, n < fuel → ((c.list fuel).sent (servedBy twoPages) ()).length = n + 1 ∧
      Ends (pagesOf twoPages) none n ((c.list fuel).run (servedBy twoPages) ()).1.1 := by
  intro c
  have hopen : c.SpeaksWith "docs" "http://a/" :=
    Client.speaksWith_of_run (servedBy twoPages) () (by decide +kernel)
  have hfirst : pagesOf twoPages none = some ⟨[], some "a"⟩ := by decide +kernel
  have hlast : pagesOf twoPages (some "a") =
      some ⟨[⟨"search", none, Definition.anyObject⟩], none⟩ := by
    decide +kernel
  have hno : ¬ Repeats (pagesOf twoPages) := by
    intro hrepeats
    refine hrepeats.asked_ne_none 2 ?_
    have hnext : Page.next? ⟨[], some "a"⟩ = some "a" := by decide
    rw [asked_succ hfirst hnext, asked, onward_of_some hlast]
    rfl
  refine (list_by_cursors (servedBy twoPages) () hopen
    (answersByCursor_servedBy twoPages fun cursor v hv => ?_) {"a"}
    fun cursor p next hp hnext => ?_).1 hno (by decide)
  · unfold twoPages at hv
    split at hv
    · cases hv
      exact ⟨.obj (Table.ascending_ofList _) (List.forall_mem_singleton.mpr (.str "a")), nofun⟩
    · split at hv
      · cases hv
        exact ⟨.obj (Table.ascending_ofList _) (List.forall_mem_singleton.mpr
          (.arr (List.forall_mem_singleton.mpr (.obj (Table.ascending_ofList _)
            (List.forall_mem_singleton.mpr (.str "search")))))), nofun⟩
      · cases hv
  · by_cases hnone : cursor = none
    · subst hnone
      cases hfirst.symm.trans hp
      cases hnext
      exact Finset.mem_singleton_self _
    · by_cases ha : cursor = some "a"
      · subst ha
        cases hlast.symm.trans hp
        cases hnext
      · rw [pagesOf, twoPages, if_neg hnone, if_neg ha] at hp
        cases hp

/-- A server with one cursor, which it gives with every page. -/
def oneCursor (_ : Option String) : Option Json :=
  some (Json.object [("nextCursor", .str "a")])

/-- **A listing from a server with one cursor does not end.** It asks as often as it is let, as long
as there are ids of 64 bits. -/
theorem not_list_of_one_cursor :
    let c : Client := { Client.fresh "docs" "http://a/" with nextId := 2 }
    c.SpeaksWith "docs" "http://a/" ∧
    (∀ q w, AnswersByCursor (fun _ => some ⟨[], some "a"⟩) ⟨q, (servedBy oneCursor q w).1⟩) ∧
    ∀ fuel, fuel + 2 ≤ 2 ^ 64 → ((c.list fuel).sent (servedBy oneCursor) ()).length = fuel ∧
      ((c.list fuel).run (servedBy oneCursor) ()).1.1 = .unfinished := by
  intro c
  have hopen : c.SpeaksWith "docs" "http://a/" :=
    Client.speaksWith_of_run (servedBy oneCursor) () (by decide +kernel)
  have hvalue : Json.Integral 126 (Json.object [("nextCursor", .str "a")]) :=
    .obj (Table.ascending_ofList _) (List.forall_mem_singleton.mpr (.str "a"))
  have hserver := answersByCursor_servedBy oneCursor (by rintro _ _ ⟨⟩; exact ⟨hvalue, nofun⟩)
  have hpages : pagesOf oneCursor = fun _ => some ⟨[], some "a"⟩ := by
    have hdecode : Page.decode (Json.object [("nextCursor", .str "a")]) = .ok ⟨[], some "a"⟩ := by
      decide +kernel
    funext cursor
    rw [pagesOf, oneCursor, Option.bind_some, hdecode]
    rfl
  rw [hpages] at hserver
  have hrepeats : Repeats fun _ => some ⟨[], some "a"⟩ := ⟨1, 2, "a", by decide, rfl, rfl⟩
  refine ⟨hopen, hserver, fun fuel hfuel => hrepeats.unfinished hopen hserver ?_ ()⟩
  change 2 + fuel ≤ 2 ^ 64
  omega

end Dialogue.ToolServer
