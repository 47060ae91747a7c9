import Mathlib.Data.List.Basic
import Dialogue.ToolServer.EventStream

/-!
# Streams of events

A stream is made of events, an event of lines. A line has data or is a note, and a note is any line
that does not begin with `data:`. Blank lines stand between events; every line ends with a line
feed, before which a carriage return may stand, but the end of the last line may be missing.

Main statement: `payloads_eq_filterMap`. A stream is cut at pairs of line feeds, so that what is cut
may begin or end with blank lines; `groups` says which lines stand together, and `exists_groups`
that these are the lines of an event as far as data goes.
-/

namespace Dialogue.ToolServer.EventStream

/-! ## Events -/

/-- A line of an event. -/
inductive Line where
  | note (text : List Char)
  /-- Data after its mark and so many spaces. -/
  | data (spaces : Nat) (text : List Char)

namespace Line

/-- A line as it stands in a stream. -/
def chars : Line → List Char
  | note text => text
  | data spaces text => dataMark ++ (List.replicate spaces ' ' ++ text)

/-- The data of a line. -/
def data? : Line → Option (List Char)
  | note _ => none
  | data _ text => some text

/-- A line that is one line and is what it is said to be. -/
def Valid : Line → Prop
  | note text => text ≠ [] ∧ ¬ dataMark <+: text ∧ '\r' ∉ text ∧ '\n' ∉ text
  | data _ text => '\r' ∉ text ∧ '\n' ∉ text

instance : DecidablePred Valid
  | note text =>
    inferInstanceAs (Decidable (text ≠ [] ∧ ¬ dataMark <+: text ∧ '\r' ∉ text ∧ '\n' ∉ text))
  | data _ text => inferInstanceAs (Decidable ('\r' ∉ text ∧ '\n' ∉ text))

end Line

/-- An event. -/
abbrev Event := List Line

/-- Texts put together as lines, if there are any. -/
def joined? (texts : List (List Char)) : Option (List Char) :=
  match texts with
  | [] => none
  | _ => some (['\n'].intercalate texts)

/-- The payload of an event: the data of its lines, line by line. -/
def Event.payload? (e : Event) : Option (List Char) :=
  joined? (e.filterMap Line.data?)

/-- The lines of a text. Each but the last ends with a line feed or with a carriage return and a
line feed, which may be mixed; where the text ends with such an end, its last line is blank. -/
inductive HasLines : List (List Char) → List Char → Prop where
  | last (line : List Char) : HasLines [line] line
  | feed {lines : List (List Char)} {body : List Char} (line : List Char) :
      HasLines lines body → HasLines (line :: lines) (line ++ '\n' :: body)
  | returnFeed {lines : List (List Char)} {body : List Char} (line : List Char) :
      HasLines lines body → HasLines (line :: lines) (line ++ '\r' :: '\n' :: body)

/-- The lines of events: blank lines stand between events, and perhaps before the first and after
the last. -/
inductive Streams : List Event → List (List Char) → Prop where
  | nil : Streams [] []
  | blank {events : List Event} {lines : List (List Char)} : Streams events lines →
      Streams events ([] :: lines)
  | last (event : Event) : Streams [event] (event.map Line.chars)
  | event {events : List Event} {lines : List (List Char)} (event : Event) :
      Streams events lines → Streams (event :: events) (event.map Line.chars ++ [] :: lines)

variable {lines : List (List Char)} {body : List Char} {events : List Event}

/-! ## Lines -/

theorem unifyEnds_append {line : List Char} (h : '\r' ∉ line) (rest : List Char) :
    unifyEnds (line ++ rest) = line ++ unifyEnds rest := by
  induction line with
  | nil => rfl
  | cons c line ih =>
    obtain ⟨hc, hline⟩ := List.ne_and_not_mem_of_not_mem_cons h
    rw [List.cons_append, unifyEnds, ih hline, List.cons_append]
    rintro _ rfl
    exact absurd rfl hc

theorem intercalate_cons (line : List Char) (hne : lines ≠ []) :
    ['\n'].intercalate (line :: lines) = line ++ '\n' :: ['\n'].intercalate lines := by
  obtain ⟨next, rest, rfl⟩ := List.exists_cons_of_ne_nil hne
  rw [List.intercalate_cons_cons, List.append_assoc, List.singleton_append]

theorem HasLines.ne_nil (h : HasLines lines body) : lines ≠ [] := by
  cases h <;> exact List.cons_ne_nil _ _

/-- Where line ends are unified, lines are put together by line feeds. -/
theorem HasLines.unifyEnds_eq (h : HasLines lines body) (hreturn : ∀ line ∈ lines, '\r' ∉ line) :
    unifyEnds body = ['\n'].intercalate lines := by
  induction h with
  | last line =>
    have hline := unifyEnds_append (hreturn line (List.mem_singleton_self line)) []
    simpa [unifyEnds] using hline
  | feed line h ih =>
    obtain ⟨hline, hlines⟩ := List.forall_mem_cons.mp hreturn
    rw [unifyEnds_append hline, intercalate_cons line h.ne_nil, ← ih hlines]
    rfl
  | returnFeed line h ih =>
    obtain ⟨hline, hlines⟩ := List.forall_mem_cons.mp hreturn
    rw [unifyEnds_append hline, intercalate_cons line h.ne_nil, ← ih hlines]
    rfl

/-! ## Lines that stand together -/

/-- The lines of a text that stand together where it is cut at pairs of line feeds. A cut takes one
blank line away; the blank lines after it stand with the lines that follow, and one at the end of
the text with those before it. -/
def groups : List (List Char) → List (List (List Char))
  | [] => []
  | [line] => [[line]]
  | line :: [] :: next :: rest => [line] :: groups (next :: rest)
  | line :: rest =>
    match groups rest with
    | g :: gs => (line :: g) :: gs
    | [] => [[line]]

theorem groups_ne_nil (hne : lines ≠ []) : groups lines ≠ [] := by
  fun_cases groups lines <;> simp_all

theorem ne_nil_of_mem_groups {g : List (List Char)} (hg : g ∈ groups lines) : g ≠ [] := by
  fun_induction groups lines generalizing g <;> grind

theorem mem_of_mem_groups {g : List (List Char)} {line : List Char} (hg : g ∈ groups lines)
    (hline : line ∈ g) : line ∈ lines := by
  fun_induction groups lines generalizing g <;> grind

theorem splitEvents_ne_nil (cs : List Char) : splitEvents cs ≠ [] := by
  fun_cases splitEvents cs <;> exact List.cons_ne_nil _ _

/-- A character is left where it is, unless a pair of line feeds begins with it. -/
theorem splitEvents_cons {c : Char} {rest : List Char}
    (h : ∀ t, c = '\n' → rest ≠ '\n' :: t) :
    splitEvents (c :: rest) = (splitEvents rest).modifyHead (c :: ·) := by
  obtain ⟨e, es, hrest⟩ := List.exists_cons_of_ne_nil (splitEvents_ne_nil rest)
  rw [splitEvents, hrest, List.modifyHead_cons]
  exact h

theorem splitEvents_append {line : List Char} (h : '\n' ∉ line) (rest : List Char) :
    splitEvents (line ++ rest) = (splitEvents rest).modifyHead (line ++ ·) := by
  obtain ⟨e, es, hrest⟩ := List.exists_cons_of_ne_nil (splitEvents_ne_nil rest)
  induction line with
  | nil => simp [hrest]
  | cons c line ih =>
    obtain ⟨hc, hline⟩ := List.ne_and_not_mem_of_not_mem_cons h
    rw [List.cons_append, splitEvents_cons fun _ h => absurd h.symm hc, ih hline, hrest]
    rfl

/-- A text begins with a line feed only if its first line is blank and not its last. -/
theorem intercalate_ne_feed (hfeed : ∀ line ∈ lines, '\n' ∉ line)
    (hcut : ∀ next rest, lines = [] :: next :: rest → False) (t : List Char) :
    ['\n'].intercalate lines ≠ '\n' :: t := by
  intro heq
  rcases lines with _ | ⟨line, rest⟩
  · cases heq
  rcases line with _ | ⟨c, line⟩
  · rcases rest with _ | ⟨next, rest⟩
    · cases heq
    · exact hcut next rest rfl
  · have hc : c ≠ '\n' := by
      rintro rfl
      exact hfeed _ (List.mem_cons_self ..) (List.mem_cons_self ..)
    rcases rest with _ | ⟨next, rest⟩
    · exact hc (List.cons.inj heq).1
    · rw [List.intercalate_cons_cons] at heq
      exact hc (List.cons.inj heq).1

/-- A text is cut where its groups of lines end. -/
theorem splitEvents_intercalate (hne : lines ≠ []) (hfeed : ∀ line ∈ lines, '\n' ∉ line) :
    splitEvents (['\n'].intercalate lines) = (groups lines).map (['\n'].intercalate ·) := by
  fun_induction groups lines with
  | case1 => exact absurd rfl hne
  | case2 line =>
    have hline := splitEvents_append (hfeed line (List.mem_singleton_self line)) []
    simpa [splitEvents] using hline
  | case3 line next rest ih =>
    obtain ⟨hline, hblank⟩ := List.forall_mem_cons.mp hfeed
    have hrest := ih (List.cons_ne_nil _ _) (List.forall_mem_cons.mp hblank).2
    rw [intercalate_cons line (List.cons_ne_nil _ _), intercalate_cons [] (List.cons_ne_nil _ _),
      splitEvents_append hline]
    simp [splitEvents, hrest]
  | case4 line rest hrest hcut g gs hgroups ih =>
    obtain ⟨hline, hlines⟩ := List.forall_mem_cons.mp hfeed
    have hg : g ≠ [] := ne_nil_of_mem_groups (hgroups ▸ List.mem_cons_self ..)
    have hsplit := ih hrest hlines
    rw [hgroups, List.map_cons] at hsplit
    rw [intercalate_cons line hrest, splitEvents_append hline,
      splitEvents_cons fun t _ => intercalate_ne_feed hlines hcut t, hsplit, List.map_cons,
      intercalate_cons line hg]
    rfl
  | case5 line rest hrest hcut hgroups _ => exact absurd hgroups (groups_ne_nil hrest)

/-- A line stands with those after it, unless a pair of line feeds ends it. -/
theorem groups_cons (line : List Char) (hne : lines ≠ [])
    (hcut : ∀ next rest, lines = [] :: next :: rest → False) :
    groups (line :: lines) = (groups lines).modifyHead (line :: ·) := by
  obtain ⟨g, gs, hgroups⟩ := List.exists_cons_of_ne_nil (groups_ne_nil hne)
  rw [groups, hgroups, List.modifyHead_cons]
  · exact hne
  · exact hcut

theorem groups_cons_cons (line : List Char) {next : List Char} (hnext : next ≠ [])
    (rest : List (List Char)) :
    groups (line :: next :: rest) = (groups (next :: rest)).modifyHead (line :: ·) := by
  refine groups_cons line (List.cons_ne_nil _ _) ?_
  rintro _ _ ⟨⟩
  exact hnext rfl

/-! ## The data of lines that stand together -/

/-- The data of lines. -/
def dataOf? (lines : List (List Char)) : Option (List Char) :=
  joined? (lines.filterMap lineData?)

theorem eventData?_eq (cs : List Char) : eventData? cs = dataOf? (EventStream.lines cs) := by
  rw [eventData?, dataOf?]
  cases (EventStream.lines cs).filterMap lineData? <;> rfl

theorem dropReturn_eq {line : List Char} (h : '\r' ∉ line) : dropReturn line = line :=
  if_neg fun hlast => h (List.mem_of_getLast? hlast)

/-- The lines of a text are its lines, but for a blank one at the end, which has no data. -/
theorem eventData?_intercalate (hne : lines ≠ [])
    (hends : ∀ line ∈ lines, '\r' ∉ line ∧ '\n' ∉ line) :
    eventData? (['\n'].intercalate lines) = dataOf? lines := by
  have hpieces : (['\n'].intercalate lines).splitOn '\n' = lines :=
    List.splitOn_intercalate '\n' (fun line hline => (hends line hline).2) hne
  obtain ⟨front, last, rfl⟩ : ∃ front last, lines = front ++ [last] :=
    ⟨_, _, (List.dropLast_concat_getLast hne).symm⟩
  have hfront : front.map dropReturn = front := by
    refine (List.map_congr_left fun line hline => ?_).trans (List.map_id front)
    exact dropReturn_eq (hends line (List.mem_append_left _ hline)).1
  have hlines : (EventStream.lines (['\n'].intercalate (front ++ [last]))).filterMap lineData? =
      (front ++ [last]).filterMap lineData? := by
    simp only [EventStream.lines, hpieces, List.getLast?_append, List.getLast?_singleton,
      List.dropLast_concat, hfront, List.filterMap_append]
    cases last <;> rfl
  rw [eventData?_eq, dataOf?, dataOf?, hlines]

/-- Blank lines in front have no data. -/
theorem filterMap_groups_blank (lines : List (List Char)) :
    (groups ([] :: lines)).filterMap dataOf? = (groups lines).filterMap dataOf? := by
  have hhead (gs : List (List (List Char))) :
      (gs.modifyHead ([] :: ·)).filterMap dataOf? = gs.filterMap dataOf? := by
    cases gs <;> rfl
  induction lines with
  | nil => rfl
  | cons line lines ih =>
    by_cases hcut : line = [] ∧ lines ≠ []
    · obtain ⟨rfl, hne⟩ := hcut
      obtain ⟨next, rest, rfl⟩ := List.exists_cons_of_ne_nil hne
      exact ih.symm
    · rw [groups_cons [] (List.cons_ne_nil _ _), hhead]
      rintro next rest ⟨⟩
      exact hcut ⟨rfl, List.cons_ne_nil _ _⟩

/-- Up to the next blank line, the lines of an event stand together. -/
theorem exists_groups {event : List (List Char)} (hne : event ≠ [])
    (hblank : ∀ line ∈ event, line ≠ []) (lines : List (List Char)) :
    ∃ g, groups (event ++ [] :: lines) = g :: groups lines ∧
      g.filterMap lineData? = event.filterMap lineData? := by
  induction event with
  | nil => exact absurd rfl hne
  | cons line event ih =>
    rcases event with _ | ⟨next, event⟩
    · rcases lines with _ | ⟨first, lines⟩
      · exact ⟨[line, []], rfl, by simp only [List.filterMap_cons]; rfl⟩
      · exact ⟨[line], rfl, rfl⟩
    · have hevent := (List.forall_mem_cons.mp hblank).2
      obtain ⟨g, hg, hdata⟩ := ih (List.cons_ne_nil _ _) hevent
      refine ⟨line :: g, ?_, by simp only [List.filterMap_cons, hdata]⟩
      rw [List.cons_append, List.cons_append,
        groups_cons_cons line (hevent next (List.mem_cons_self ..)), ← List.cons_append, hg]
      rfl

theorem groups_event {event : List (List Char)} (hne : event ≠ [])
    (hblank : ∀ line ∈ event, line ≠ []) : groups event = [event] := by
  induction event with
  | nil => exact absurd rfl hne
  | cons line event ih =>
    rcases event with _ | ⟨next, event⟩
    · rfl
    · have hevent := (List.forall_mem_cons.mp hblank).2
      rw [groups_cons_cons line (hevent next (List.mem_cons_self ..)),
        ih (List.cons_ne_nil _ _) hevent]
      rfl

theorem filterMap_groups_event {event : List (List Char)} (hblank : ∀ line ∈ event, line ≠ [])
    (lines : List (List Char)) : (groups (event ++ [] :: lines)).filterMap dataOf? =
      (event :: groups lines).filterMap dataOf? := by
  by_cases hne : event = []
  · rw [hne]
    exact filterMap_groups_blank lines
  · obtain ⟨g, hg, hdata⟩ := exists_groups hne hblank lines
    have hdataOf : dataOf? g = dataOf? event := by rw [dataOf?, hdata, dataOf?]
    rw [hg, List.filterMap_cons, List.filterMap_cons, hdataOf]

/-! ## The payloads of a stream -/

namespace Line

variable {l : Line}

theorem Valid.chars_ne_nil (h : l.Valid) : l.chars ≠ [] := by
  cases l with
  | note text => exact h.1
  | data spaces text => exact List.cons_ne_nil _ _

theorem Valid.not_mem (h : l.Valid) : '\r' ∉ l.chars ∧ '\n' ∉ l.chars := by
  cases l with
  | note text => exact h.2.2
  | data spaces text => simpa [chars, dataMark, Valid] using h

/-- The data of a line is read without the blanks before it. -/
theorem Valid.lineData?_eq (h : l.Valid) : lineData? l.chars = l.data?.map Text.trimStart := by
  cases l with
  | note text => exact if_neg fun hmark => h.2.1 (List.isPrefixOf_iff_prefix.mp hmark)
  | data spaces text =>
    have hspaces : Text.trimStart (List.replicate spaces ' ' ++ text) = Text.trimStart text :=
      List.dropWhile_append_of_pos fun c hc => (List.eq_of_mem_replicate hc) ▸ rfl
    have hmark : dataMark.isPrefixOf (data spaces text).chars = true :=
      List.isPrefixOf_iff_prefix.mpr (List.prefix_append ..)
    rw [lineData?, if_pos hmark, chars, List.drop_left, hspaces]
    rfl

end Line

/-- The payload of an event as it is read: each line without the blanks before it. -/
def Event.trimmed? (e : Event) : Option (List Char) :=
  joined? ((e.filterMap Line.data?).map Text.trimStart)

theorem dataOf?_map_chars {e : Event} (h : ∀ l ∈ e, l.Valid) :
    dataOf? (e.map Line.chars) = e.trimmed? := by
  have hlines : (e.map Line.chars).filterMap lineData? =
      (e.filterMap Line.data?).map Text.trimStart := by
    rw [List.filterMap_map, List.map_filterMap]
    exact List.filterMap_congr fun l hl => (h l hl).lineData?_eq
  rw [dataOf?, hlines, Event.trimmed?]

/-- The lines that stand together are those of an event, as far as data goes. -/
theorem Streams.filterMap_groups (h : Streams events lines)
    (hvalid : ∀ e ∈ events, ∀ l ∈ e, l.Valid) :
    (groups lines).filterMap dataOf? = events.filterMap Event.trimmed? := by
  have hblank (e : Event) (he : ∀ l ∈ e, l.Valid) : ∀ line ∈ e.map Line.chars, line ≠ [] :=
    List.forall_mem_map.mpr fun l hl => (he l hl).chars_ne_nil
  induction h with
  | nil => rfl
  | blank _ ih => rw [filterMap_groups_blank, ih hvalid]
  | last event =>
    have hevent := hvalid _ (List.mem_singleton_self _)
    by_cases hne : event = []
    · rw [hne]
      rfl
    · rw [groups_event (List.map_eq_nil_iff.not.mpr hne) (hblank _ hevent), List.filterMap_cons,
        List.filterMap_cons, dataOf?_map_chars hevent]
      rfl
  | event event _ ih =>
    obtain ⟨hevent, hevents⟩ := List.forall_mem_cons.mp hvalid
    rw [filterMap_groups_event (hblank _ hevent), List.filterMap_cons, List.filterMap_cons,
      dataOf?_map_chars hevent, ih hevents]

theorem Streams.not_mem (h : Streams events lines) (hvalid : ∀ e ∈ events, ∀ l ∈ e, l.Valid) :
    ∀ line ∈ lines, '\r' ∉ line ∧ '\n' ∉ line := by
  have hchars (e : Event) (he : ∀ l ∈ e, l.Valid) :
      ∀ line ∈ e.map Line.chars, '\r' ∉ line ∧ '\n' ∉ line :=
    List.forall_mem_map.mpr fun l hl => (he l hl).not_mem
  induction h with
  | nil => nofun
  | blank _ ih => exact List.forall_mem_cons.mpr ⟨⟨nofun, nofun⟩, ih hvalid⟩
  | last event => exact hchars _ (hvalid _ (List.mem_singleton_self _))
  | event event _ ih =>
    obtain ⟨hevent, hevents⟩ := List.forall_mem_cons.mp hvalid
    exact List.forall_mem_append.mpr
      ⟨hchars _ hevent, List.forall_mem_cons.mpr ⟨⟨nofun, nofun⟩, ih hevents⟩⟩

/-- The payloads of a stream are those of its events in order, each line without the blanks before
it. -/
theorem payloads_eq_filterMap (hbody : HasLines lines body) (h : Streams events lines)
    (hvalid : ∀ e ∈ events, ∀ l ∈ e, l.Valid) :
    payloads body = events.filterMap Event.trimmed? := by
  have hends := h.not_mem hvalid
  rw [payloads, hbody.unifyEnds_eq fun line hline => (hends line hline).1,
    splitEvents_intercalate hbody.ne_nil fun line hline => (hends line hline).2,
    List.filterMap_map, ← h.filterMap_groups hvalid]
  refine List.filterMap_congr fun g hg => ?_
  exact eventData?_intercalate (ne_nil_of_mem_groups hg) fun line hline =>
    hends line (mem_of_mem_groups hg hline)

end Dialogue.ToolServer.EventStream
