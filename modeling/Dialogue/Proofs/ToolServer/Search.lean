import Dialogue.Proofs.Http.Hosts
import Dialogue.Proofs.ToolServer.Sessions
import Dialogue.ToolServer.Discovery
import Mathlib.Data.List.Forall2

/-!
# The search among the tools of one server

A search opens a session and lists the tools of the server. It sends to the address of the server
and nowhere else, and sends two messages and one for each page at most. A search that is complete
has the definitions of all pages, in the order in which they were asked for.

Main statements: `searches_of_passes`, `search_sends`, `search_atMost` and `Lists.exists_pages`.
-/

namespace Dialogue.ToolServer

open Http (Exchange Sent)
open Client (Listing idOf?)

/-- The address that requests for a URL go to, if it is one. -/
def addressOf? (url : String) : Option Http.Url :=
  (Http.Url.read? url).map (·.withoutUser)

namespace Client

variable {c c' : Client} {fuel : Nat} {cursor : Option String} {log : List Sent} {l : Listing}

theorem Posts.addressOf?_eq {message : Json} {q : Http.Request} (h : c.Posts message q) :
    addressOf? c.url = some q.url := by
  obtain ⟨url, hurl, -, -, -, rfl⟩ := Http.makeRequest_eq_ok_iff.mp h
  rw [addressOf?, hurl]
  rfl

theorem Asks.addressOf?_eq {method : String} {params : Json} {s : Sent} {x : Except Failure Json}
    (h : c.Asks method params s x) : addressOf? c.url = some s.request.url := by
  cases h with
  | served hq _ => exact hq.addressOf?_eq
  | failed hq _ => exact hq.addressOf?_eq

/-- Pages are asked of the address of the server. -/
theorem Lists.addressOf?_eq (h : c.Lists fuel cursor log l c') :
    ∀ s ∈ log, addressOf? c.url = some s.request.url := by
  induction h with
  | unfinished => exact List.forall_mem_nil _
  | unserved hasks => simpa using hasks.addressOf?_eq
  | misread hasks _ => simpa using hasks.addressOf?_eq
  | last hasks _ _ => simpa using hasks.addressOf?_eq
  | more hasks _ _ _ ih =>
    intro s hs
    rcases List.mem_cons.mp hs with rfl | hs
    · exact hasks.addressOf?_eq
    · have haddress := ih s hs
      rw [url_hear, url_next] at haddress
      exact haddress

theorem Lists.length_le (h : c.Lists fuel cursor log l c') : log.length ≤ fuel := by
  induction h with
  | unfinished => exact Nat.le_refl 0
  | unserved _ => exact Nat.succ_pos _
  | misread _ _ => exact Nat.succ_pos _
  | last _ _ _ => exact Nat.succ_pos _
  | more _ _ _ _ ih => exact Nat.succ_le_succ ih

/-- An answer to a request that was sent serves it with a page. -/
def GivesPage (s : Sent) (p : Page) : Prop :=
  ∃ k v, idOf? s = some (.ofNat k) ∧ Serves s.answer k v ∧ Page.decode v = .ok p

theorem Asks.givesPage {method : String} {params v : Json} {s : Sent} {p : Page}
    (h : c.Asks method params s (.ok v)) (hp : Page.decode v = .ok p) : GivesPage s p := by
  have hid := h.idOf?_eq
  obtain ⟨-, hserves⟩ | _ := h
  exact ⟨c.nextId, v, hid, hserves, hp⟩

/-- A complete listing has the definitions of the pages, in the order of the pages. -/
theorem Lists.exists_pages {definitions : List Definition}
    (h : c.Lists fuel cursor log (.complete definitions) c') :
    ∃ pages, List.Forall₂ GivesPage log pages ∧ definitions = pages.flatMap (·.definitions) := by
  generalize hl : Listing.complete definitions = l at h
  -- The listing from a page on is complete only if the listing after the page is.
  induction h generalizing definitions with
  | unfinished => cases hl
  | unserved _ => cases hl
  | misread _ _ => cases hl
  | @last _ _ _ _ _ p hasks hp _ =>
    cases hl
    exact ⟨[p], .cons (hasks.givesPage hp) .nil, by simp⟩
  | @more _ _ _ _ _ _ _ p _ l hasks hp _ _ ih =>
    cases l with
    | complete rest =>
      cases hl
      obtain ⟨pages, hpages, rfl⟩ := ih rfl
      exact ⟨p :: pages, .cons (hasks.givesPage hp) hpages, rfl⟩
    | failed _ => cases hl
    | unfinished => cases hl

end Client

theorem Opens.addressOf?_eq {name url : String} {log : List Sent} {x : Except Failure Client}
    (h : Opens name url log x) :
    (∀ s ∈ log, addressOf? url = some s.request.url) ∧ ∀ c, x = .ok c → c.url = url := by
  cases h with
  | unsendable _ => exact ⟨List.forall_mem_nil _, nofun⟩
  | @refused hello _ hasks =>
    have hhello := hasks.addressOf?_eq
    rw [Client.url_fresh] at hhello
    exact ⟨by simpa using hhello, nofun⟩
  | @unheard hello _ _ _ hasks hposts _ =>
    have hhello := hasks.addressOf?_eq
    have hnote := hposts.addressOf?_eq
    simp only [Client.url_hear, Client.url_next, Client.url_fresh] at hhello hnote
    exact ⟨by simpa using ⟨hhello, hnote⟩, nofun⟩
  | @opened hello _ _ _ hasks hposts _ =>
    have hhello := hasks.addressOf?_eq
    have hnote := hposts.addressOf?_eq
    simp only [Client.url_hear, Client.url_next, Client.url_fresh] at hhello hnote
    refine ⟨by simpa using ⟨hhello, hnote⟩, ?_⟩
    rintro _ ⟨⟩
    simp only [Client.url_hear, Client.url_next, Client.url_fresh]

theorem Opens.length_le {name url : String} {log : List Sent} {x : Except Failure Client}
    (h : Opens name url log x) : log.length ≤ 2 := by
  cases h <;> simp

/-- How the tools of a server are found: a session is opened, and then the tools are listed. -/
inductive Searches (fuel : Nat) (server url : String) : List Sent → Listing → Client → Prop where
  | unopened {log : List Sent} {e : Failure} {c : Client} : Opens server url log (.error e) →
      Searches fuel server url log (.failed e) c
  | listed {opening log : List Sent} {l : Listing} {c c' : Client} :
      Opens server url opening (.ok c) → c.Lists fuel none log l c' →
      Searches fuel server url (opening ++ log) l c'

variable {fuel : Nat} {server url : String} {log : List Sent} {l : Listing} {c : Client}

/-- A search, whatever is answered. -/
theorem searches_of_passes (h : (search fuel server url).Passes log (l, c)) :
    Searches fuel server url log l c := by
  obtain ⟨opening, rest, ⟨x, c₁⟩, rfl, hconnect, hrest⟩ := Exchange.passes_bind_iff.mp h
  have hopens := opens_of_passes hconnect
  rcases x with e | ⟨⟩
  · obtain ⟨rfl, rfl, rfl⟩ := Exchange.passes_done_pair_iff.mp hrest
    rw [List.append_nil]
    exact .unopened hopens
  · obtain ⟨_, _, hopen⟩ := hopens.filterMap_idOf?
    exact .listed hopens (Client.lists_of_passes hrest (hopen c₁ rfl).2.2)

/-- A search sends to the address of the server and nowhere else. -/
theorem search_sends (fuel : Nat) (server url : String) :
    (search fuel server url).Sends fun r => addressOf? url = some r.url := by
  rintro log ⟨l, c⟩ hpasses s hs
  cases searches_of_passes hpasses with
  | unopened hopens => exact hopens.addressOf?_eq.1 s hs
  | listed hopens hlists =>
    rcases List.mem_append.mp hs with hs | hs
    · exact hopens.addressOf?_eq.1 s hs
    · rw [← hopens.addressOf?_eq.2 _ rfl]
      exact hlists.addressOf?_eq s hs

/-- A search sends two messages and one for each page. -/
theorem search_atMost (fuel : Nat) (server url : String) :
    (search fuel server url).AtMost (fuel + 2) := by
  rintro log ⟨l, c⟩ hpasses
  cases searches_of_passes hpasses with
  | unopened hopens =>
    have hopening := hopens.length_le
    omega
  | listed hopens hlists =>
    have hopening := hopens.length_le
    have hpages := hlists.length_le
    rw [List.length_append]
    omega

end Dialogue.ToolServer
