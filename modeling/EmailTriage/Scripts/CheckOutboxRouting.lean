import EmailTriage.Lib.Scanning

/-!
# The check of the outbox routing

`scripts/check-outbox-routing.js` looks for the event classes in the files of the `domain/events/`
directories, and for the keys of the table `EVENT_QUEUE_ROUTING` in `src/queue/event-routing.ts`, both
with regular expressions. It passes if every class has a key.

`outboxRouting_passes_iff` says what a check that passes has read. A file that cannot be read ends the
check with an exception; there is none here.

## The shape of the argument

The three expressions of the script are patterns, and for each of them there is a predicate that says
without the pattern what it finds: where a class begins, where a key does, and which text is the table
(`BeginsClass`, `BeginsKey`, `IsTable`). A loop over matches finds everything of its kind if matches
that overlap have the same key, which `key_overlap` shows. The exit code is then a statement about the
classes in the files and the keys in the table.
-/

namespace EmailTriage.CheckOutboxRouting

open Js RegExp

abbrev Text := List Char

/-! ## The event files

The script walks through the directories and reads the files that may declare events.
-/

/-- An entry of a directory; a symbolic link, for instance, is neither a directory nor a file. -/
inductive Entry where
  | dir (name : Text) (entries : List Entry)
  | file (name : Text) (content : Text)
  | other (name : Text)

def join (dir name : Text) : Text := dir ++ '/' :: name

def includes (part : Text) : Text → Bool
  | [] => part.isEmpty
  | c :: s => part.isPrefixOf (c :: s) || includes part s

def isEventFile (full : Text) : Bool :=
  includes "/domain/events/".toList full && ".ts".toList.isSuffixOf full &&
    !".spec.ts".toList.isSuffixOf full

mutual

/-- The event files below a directory, with their contents. -/
def walk (dir : Text) : List Entry → List (Text × Text)
  | [] => []
  | entry :: entries => walkEntry dir entry ++ walk dir entries

def walkEntry (dir : Text) : Entry → List (Text × Text)
  | .dir name entries => walk (join dir name) entries
  | .file name content =>
    if isEventFile (join dir name) then [(join dir name, content)] else []
  | .other _ => []

end

/-! ## The check

The patterns of the script, and the comparison of the events with the keys of the table.
-/

/-- `/export class (\w+)/g`. -/
def classPattern : Pattern := literal "export class ".toList ++ [.plus isWord]

/-- The end of the table, at the beginning of a line. -/
def close : Text := ['\n', '\x7d', ';']

/-- `/EVENT_QUEUE_ROUTING[^{]*\{([\s\S]*?)\n\};/`. -/
def routingTablePattern : Pattern :=
  literal "EVENT_QUEUE_ROUTING".toList ++ (.star (fun c => c ≠ '\x7b') ::
    (literal ['\x7b'] ++ (.lazyStar (fun _ => true) :: literal close)))

/-- `^` with the flag `m`. -/
def isLineStart (prev : Option Char) : Bool := prev.all fun c => !isDot c

/-- `/\s*(\w+):\s*\[/`. -/
def entryPattern : Pattern :=
  .star isSpace :: .plus isWord :: (literal [':'] ++ (.star isSpace :: literal ['[']))

/-- `/^\s*(\w+):\s*\[/m` at one position. -/
def execKey (prev : Option Char) (s : Text) : Option (List Text) :=
  if isLineStart prev then exec entryPattern prev s else none

/-- The event classes that a file declares. -/
def classNames (content : Text) : List Text :=
  (matchAll classPattern (content.length + 1) none content).map fun ms => ms.getD 13 []

def discoveredEvents (dir : Text) (entries : List Entry) : List Text :=
  ((walk dir entries).flatMap fun (_, content) => classNames content).eraseDups

def routedEvents (routingBody : Text) : List Text :=
  ((scan execKey (routingBody.length + 1) none routingBody).map fun ms => ms.getD 1 []).eraseDups

/-- What the script prints, and its exit code. -/
def outcome (srcDir : Text) (entries : List Entry) (routingSource : Text) : List String × ℕ :=
  match search routingTablePattern none routingSource with
  | none => (["❌ Could not locate EVENT_QUEUE_ROUTING table in src/queue/event-routing.ts"], 1)
  | some routingTableMatch =>
    let discovered := discoveredEvents srcDir entries
    let routed := routedEvents (routingTableMatch.getD 21 [])
    let unrouted := discovered.filter fun name => !routed.contains name
    if unrouted.length > 0 then
      (["❌ Event classes with no outbox-relay routing entry: " ++
          ", ".intercalate (unrouted.map String.ofList),
        "   Add an entry (even an explicit []) to EVENT_QUEUE_ROUTING in src/queue/event-routing.ts"], 1)
    else
      (["✅ All " ++ toString discovered.length ++
        " discovered domain event classes have an outbox-relay routing entry"], 0)

def exitCode (srcDir : Text) (entries : List Entry) (routingSource : Text) : ℕ :=
  (outcome srcDir entries routingSource).2

/-! ## Files

Which files the walk comes to.
-/

/-- A file below an entry of a directory, under its full name. -/
inductive Holds : (dir : Text) → Entry → (full content : Text) → Prop
  | file (dir name content : Text) : Holds dir (.file name content) (join dir name) content
  | dir (dir name : Text) (entries : List Entry) (entry : Entry) (full content : Text)
      (hentry : entry ∈ entries) (h : Holds (join dir name) entry full content) :
      Holds dir (.dir name entries) full content

mutual

/-- The walk lists the event files of a directory, those of its subdirectories included. -/
theorem mem_walk_iff (dir : Text) (entries : List Entry) (full content : Text) :
    (full, content) ∈ walk dir entries ↔
      isEventFile full = true ∧ ∃ entry ∈ entries, Holds dir entry full content := by
  cases entries with
  | nil => simp [walk]
  | cons entry entries =>
    rw [walk, List.mem_append, mem_walkEntry_iff dir entry full content,
      mem_walk_iff dir entries full content, ← and_or_left]
    refine and_congr_right fun _ => ⟨?_, ?_⟩
    · rintro (h | ⟨entry', hentry', h⟩)
      · exact ⟨entry, List.mem_cons_self, h⟩
      · exact ⟨entry', List.mem_cons_of_mem entry hentry', h⟩
    · rintro ⟨entry', hentry', h⟩
      rcases List.mem_cons.mp hentry' with rfl | hentry'
      · exact .inl h
      · exact .inr ⟨entry', hentry', h⟩

/-- So it does below one entry. -/
theorem mem_walkEntry_iff (dir : Text) (entry : Entry) (full content : Text) :
    (full, content) ∈ walkEntry dir entry ↔ isEventFile full = true ∧ Holds dir entry full content := by
  cases entry with
  | dir name entries =>
    rw [walkEntry, mem_walk_iff (join dir name) entries full content]
    refine and_congr_right fun _ => ⟨?_, ?_⟩
    · rintro ⟨entry, hentry, h⟩
      exact .dir dir name entries entry full content hentry h
    · rintro ⟨⟩
      rename_i entry hentry h
      exact ⟨entry, hentry, h⟩
  | file name content' =>
    rw [walkEntry]
    constructor
    · intro h
      by_cases hfile : isEventFile (join dir name) = true
      · rw [if_pos hfile, List.mem_singleton, Prod.mk.injEq] at h
        obtain ⟨rfl, rfl⟩ := h
        exact ⟨hfile, .file dir name content⟩
      · rw [if_neg hfile] at h
        cases h
    · rintro ⟨hfile, ⟨⟩⟩
      rw [if_pos hfile]
      exact List.mem_singleton_self _
  | other name => exact iff_of_false List.not_mem_nil fun h => nomatch h.2

end

/-! ## Classes

What the pattern takes for an event class. Each name is found where a class begins in a division of the
text.
-/

/-- A text begins with `export class` and a name, which goes on as far as it can. -/
structure BeginsClass (s name rest : Text) : Prop where
  text : s = "export class ".toList ++ (name ++ rest)
  name_ne_nil : name ≠ []
  isWord_name : ∀ c ∈ name, isWord c = true
  maximal : ∀ c ∈ rest.head?, isWord c = false

/-- What the loop makes of a class. -/
def classGroups (name : Text) : List Text := ("export class ".toList.map fun c => [c]) ++ [name]

/-- The pattern for classes matches what begins a class, and only that. -/
theorem recognizes_class : Recognizes classPattern BeginsClass classGroups where
  exec_iff prev s ms := by
    constructor
    · intro h
      obtain ⟨s', ms', rfl, rfl, hname⟩ := exists_of_exec_literal h
      obtain ⟨name, rest, rfl, rfl, hne, hword, hmaximal⟩ := exec_plus_iff.mp hname
      exact ⟨name, rest, ⟨rfl, hne, hword, hmaximal⟩, rfl⟩
    · rintro ⟨name, rest, ⟨rfl, hne, hword, hmaximal⟩, rfl⟩
      unfold classPattern
      rw [exec_literal_append, exec_plus_iff.mpr ⟨name, rest, rfl, rfl, hne, hword, hmaximal⟩]
      rfl
  text s name rest h := by
    unfold classGroups
    rw [List.flatten_append, flatten_map_singleton, List.flatten_singleton, List.append_assoc]
    exact h.text
  nonempty name h := by
    unfold classGroups at h
    rw [List.flatten_append, flatten_map_singleton] at h
    exact absurd (List.append_eq_nil_iff.mp h).1 (by decide)
  injective name name' h := by
    exact (List.cons.inj (List.append_cancel_left h)).1

/-- The names that are found are those of the classes that a text is divided into. -/
theorem mem_classNames_iff {content name : Text} : name ∈ classNames content ↔
    ∃ names, Division BeginsClass content names ∧ name ∈ names := by
  obtain ⟨names, hnames, hunique⟩ :=
    recognizes_class.division_matchAll (content.length + 1) none content (Nat.lt_succ_self _)
  have hgroups : ∀ name, (classGroups name).getD 13 [] = name := fun name => rfl
  unfold classNames
  rw [hnames, List.map_map]
  simp only [List.mem_map, Function.comp_apply, hgroups, exists_eq_right]
  constructor
  · intro h
    exact ⟨names, (hunique names).mpr rfl, h⟩
  · rintro ⟨names', hnames', h⟩
    rwa [(hunique names').mp hnames'] at h

/-- An event is discovered if a class of its name is in an event file. -/
theorem mem_discoveredEvents_iff {dir : Text} {entries : List Entry} {name : Text} :
    name ∈ discoveredEvents dir entries ↔ ∃ entry ∈ entries, ∃ full content,
      Holds dir entry full content ∧ isEventFile full = true ∧
        ∃ names, Division BeginsClass content names ∧ name ∈ names := by
  unfold discoveredEvents
  rw [List.mem_eraseDups, List.mem_flatMap]
  constructor
  · rintro ⟨⟨full, content⟩, hfile, hname⟩
    obtain ⟨hevent, entry, hentry, hholds⟩ := (mem_walk_iff dir entries full content).mp hfile
    exact ⟨entry, hentry, full, content, hholds, hevent, mem_classNames_iff.mp hname⟩
  · rintro ⟨entry, hentry, full, content, hholds, hevent, hname⟩
    exact ⟨(full, content), (mem_walk_iff dir entries full content).mpr ⟨hevent, entry, hentry, hholds⟩,
      mem_classNames_iff.mpr hname⟩

/-! ## Keys

What the pattern takes for a key of the table: a name at the beginning of a line, with a bracket behind
its colon.
-/

/-- A text begins, after spaces, with a key and an opening bracket as its value. -/
structure BeginsKey (s name rest : Text) : Prop where
  text : ∃ space gap, s = space ++ (name ++ ':' :: (gap ++ '[' :: rest)) ∧
    (∀ c ∈ space, isSpace c = true) ∧ ∀ c ∈ gap, isSpace c = true
  name_ne_nil : name ≠ []
  isWord_name : ∀ c ∈ name, isWord c = true

/-- The table has a key, at the beginning of a line. -/
def IsKey (body name : Text) : Prop :=
  ∃ pre s rest, body = pre ++ s ∧ isLineStart pre.getLast? = true ∧ BeginsKey s name rest

/-- The parts of a key are where they are. -/
theorem key_unique {space space' name name' x x' : Text} (hspace : ∀ c ∈ space, isSpace c = true)
    (hspace' : ∀ c ∈ space', isSpace c = true) (hne : name ≠ []) (hne' : name' ≠ [])
    (hword : ∀ c ∈ name, isWord c = true) (hword' : ∀ c ∈ name', isWord c = true)
    (h : space ++ (name ++ ':' :: x) = space' ++ (name' ++ ':' :: x')) :
    space = space' ∧ name = name' ∧ x = x' := by
  have hhead : ∀ {name x : Text}, name ≠ [] → (∀ c ∈ name, isWord c = true) →
      ∀ c ∈ (name ++ x).head?, isSpace c = false := by
    intro name x hne hword
    obtain ⟨c, name, rfl⟩ := List.exists_cons_of_ne_nil hne
    rintro _ ⟨⟩
    exact isSpace_eq_false_of_isWord (hword c List.mem_cons_self)
  have hcolon : ∀ {x : Text}, ∀ c ∈ (':' :: x).head?, isWord c = false := by
    rintro x _ ⟨⟩
    decide
  obtain ⟨hspaces, hrest⟩ := run_unique hspace hspace' (hhead hne hword) (hhead hne' hword') h
  obtain ⟨hnames, hrest⟩ := run_unique hword hword' hcolon hcolon hrest
  exact ⟨hspaces, hnames, (List.cons.inj hrest).2⟩

/-- Where the expression matches, there is a key. -/
theorem beginsKey_of_exec {prev : Option Char} {s : Text} {ms : List Text}
    (h : exec entryPattern prev s = some ms) :
    ∃ rest, s = ms.flatten ++ rest ∧ BeginsKey s (ms.getD 1 []) rest := by
  obtain ⟨rest, hs, hmatches⟩ := exec_sound h
  obtain ⟨space, _, rfl, hspace, name, _, rfl, ⟨hne, hword⟩, hmatches⟩ := hmatches
  obtain ⟨colon, _, rfl, hcolon, gap, _, rfl, hgap, hbracket⟩ := matches_append.mp hmatches
  obtain rfl := matches_literal.mp hcolon
  obtain rfl := matches_literal.mp hbracket
  refine ⟨rest, hs, ⟨space, gap, ?_, hspace, hgap⟩, hne, hword⟩
  rw [hs]
  simp

/-- Where there is a key, the expression matches it. -/
theorem exists_exec_of_beginsKey {s name rest : Text} (h : BeginsKey s name rest) (prev : Option Char) :
    ∃ ms, exec entryPattern prev s = some ms ∧ ms.getD 1 [] = name := by
  obtain ⟨space, gap, rfl, hspace, hgap⟩ := h.text
  have hmatches : Matches entryPattern prev [space, name, [':'], gap, ['[']] rest :=
    ⟨_, _, rfl, hspace, _, _, rfl, ⟨h.name_ne_nil, h.isWord_name⟩, matches_append.mpr
      ⟨[[':']], [gap, ['[']], rfl, matches_literal.mpr rfl, _, _, rfl, hgap, matches_literal.mpr rfl⟩⟩
  have hsome := exec_complete hmatches
  obtain ⟨ms, hms⟩ := Option.isSome_iff_exists.mp hsome
  have htext : [space, name, [':'], gap, ['[']].flatten ++ rest =
      space ++ (name ++ ':' :: (gap ++ '[' :: rest)) := by simp
  rw [htext] at hms
  obtain ⟨rest', -, hkey⟩ := beginsKey_of_exec hms
  obtain ⟨space', gap', hs', hspace', -⟩ := hkey.text
  exact ⟨ms, hms, (key_unique hspace hspace' h.name_ne_nil hkey.name_ne_nil h.isWord_name
    hkey.isWord_name hs').2.1.symm⟩

/-- A key is matched at the beginning of a line. -/
theorem exec_of_execKey {prev : Option Char} {s : Text} {ms : List Text} (h : execKey prev s = some ms) :
    isLineStart prev = true ∧ exec entryPattern prev s = some ms := by
  unfold execKey at h
  by_cases hstart : isLineStart prev = true
  · rw [if_pos hstart] at h
    exact ⟨hstart, h⟩
  · rw [if_neg hstart] at h
    cases h

/-- What is matched for a key is not empty. -/
theorem progresses_execKey : Progresses execKey where
  prefixed prev s ms h := by
    obtain ⟨rest, hs, -⟩ := beginsKey_of_exec (exec_of_execKey h).2
    exact ⟨rest, hs⟩
  nonempty prev s ms h hnil := by
    obtain ⟨rest, hs, hkey⟩ := beginsKey_of_exec (exec_of_execKey h).2
    rw [hnil, List.nil_append] at hs
    obtain ⟨space, gap, htext, -⟩ := hkey.text
    have hlength := congrArg List.length (hs.symm.trans htext)
    simp only [List.length_append, List.length_cons] at hlength
    omega

/-- The end of a line is a space. -/
theorem isSpace_of_isDot_eq_false {c : Char} (h : isDot c = false) : isSpace c = true := by
  unfold isDot at h
  unfold isSpace
  simp at h ⊢
  omega

/-- A line does not begin after a word. -/
theorem isLineStart_append {pre name : Text} (hne : name ≠ []) (hword : ∀ c ∈ name, isWord c = true) :
    isLineStart (pre ++ name).getLast? = false := by
  obtain ⟨c, hc⟩ := Option.isSome_iff_exists.mp (List.getLast?_isSome.mpr hne)
  rw [List.getLast?_append, hc, Option.some_or]
  by_contra hstart
  have hdot : isDot c = false := by simpa [isLineStart] using hstart
  have hspace := isSpace_of_isDot_eq_false hdot
  rw [isSpace_eq_false_of_isWord (hword c (List.mem_of_getLast? hc))] at hspace
  cases hspace

/-- No key begins in the spaces before a bracket. -/
theorem not_beginsKey_bracket {g name rest rest' : Text} (hgap : ∀ c ∈ g, isSpace c = true) :
    ¬BeginsKey (g ++ '[' :: rest) name rest' := by
  intro h
  obtain ⟨space, gap', htext, hspace, -⟩ := h.text
  obtain ⟨c, name', rfl⟩ := List.exists_cons_of_ne_nil h.name_ne_nil
  have hword := h.isWord_name c List.mem_cons_self
  obtain ⟨-, hrest⟩ := run_unique hgap hspace (by rintro _ ⟨⟩; decide)
    (by rintro _ ⟨⟩; exact isSpace_eq_false_of_isWord hword) htext
  rw [← (List.cons.inj hrest).1] at hword
  exact absurd hword (by decide)

/-- A key that begins inside the match of another one is the same. -/
theorem key_overlap {pre s name name' rest rest' : Text} (h : BeginsKey (pre ++ s) name rest)
    (hlt : rest.length < s.length) (hstart : isLineStart pre.getLast? = true)
    (h' : BeginsKey s name' rest') : name' = name := by
  obtain ⟨space, gap, htext, hspace, hgap⟩ := h.text
  obtain ⟨space', gap', hs, hspace', -⟩ := h'.text
  rcases List.append_eq_append_iff.mp htext with ⟨space₂, rfl, hrest⟩ | ⟨x, rfl, hrest⟩
  · -- it begins in the spaces before the name
    rw [hs] at hrest
    exact (key_unique hspace' (fun c hc => hspace c (List.mem_append_right _ hc)) h'.name_ne_nil
      h.name_ne_nil h'.isWord_name h.isWord_name hrest).2.1
  rcases List.append_eq_append_iff.mp hrest with ⟨y, rfl, hafter⟩ | ⟨name₂, hname, hafter⟩
  · rcases y with _ | ⟨colon, z⟩
    · rw [List.append_nil, isLineStart_append h.name_ne_nil h.isWord_name] at hstart
      cases hstart
    · -- it begins after the colon
      rcases List.append_eq_append_iff.mp (List.cons.inj hafter).2 with ⟨w, -, hw⟩ | ⟨gap₂, rfl, hw⟩
      · rcases w with _ | ⟨bracket, w⟩
        · rw [List.nil_append] at hw
          rw [← hw] at h'
          exact absurd h' (not_beginsKey_bracket (g := []) fun c hc => by cases hc)
        · have hlength := congrArg List.length (List.cons.inj hw).2
          rw [List.append_eq, List.length_append] at hlength
          omega
      · rw [hw] at h'
        exact absurd h' (not_beginsKey_bracket fun c hc => hgap c (List.mem_append_right _ hc))
  · -- it begins in the name
    by_cases hx : x = []
    · rw [hx, List.nil_append] at hname
      rw [hs, ← hname] at hafter
      have hnospace : ∀ c ∈ ([] : Text), isSpace c = true := fun c hc => by cases hc
      exact (key_unique hspace' hnospace h'.name_ne_nil h.name_ne_nil h'.isWord_name h.isWord_name
        hafter).2.1
    · rw [isLineStart_append hx fun c hc => h.isWord_name c (hname ▸ List.mem_append_left _ hc)] at hstart
      cases hstart

/-- The check finds the keys of a table. -/
theorem mem_routedEvents_iff {body name : Text} : name ∈ routedEvents body ↔ IsKey body name := by
  have hoverlap : ∀ prev s ms ms' pre rest, execKey prev s = some ms → s = pre ++ rest →
      pre.length < ms.flatten.length → execKey (last prev pre) rest = some ms' →
      ms'.getD 1 [] = ms.getD 1 [] := by
    rintro prev _ ms ms' pre rest h rfl hlt h'
    by_cases hpre : pre = []
    · rw [hpre] at h h'
      rw [Option.some.inj (h'.symm.trans h)]
    obtain ⟨hstart, h⟩ := exec_of_execKey h
    obtain ⟨hstart', h'⟩ := exec_of_execKey h'
    obtain ⟨tail, htail, hkey⟩ := beginsKey_of_exec h
    obtain ⟨tail', -, hkey'⟩ := beginsKey_of_exec h'
    have hlength := congrArg List.length htail
    rw [List.length_append, List.length_append] at hlength
    refine key_overlap hkey (by omega) ?_ hkey'
    obtain ⟨c, hc⟩ := Option.isSome_iff_exists.mp (List.getLast?_isSome.mpr hpre)
    rwa [last, hc, Option.some_or, ← hc] at hstart'
  unfold routedEvents IsKey
  rw [List.mem_eraseDups, mem_scan_key_iff progresses_execKey hoverlap]
  constructor
  · rintro ⟨pre, rest, ms, rfl, hms, rfl⟩
    obtain ⟨hstart, hms⟩ := exec_of_execKey hms
    obtain ⟨tail, -, hkey⟩ := beginsKey_of_exec hms
    exact ⟨pre, rest, tail, rfl, hstart, hkey⟩
  · rintro ⟨pre, s, rest, rfl, hstart, hkey⟩
    obtain ⟨ms, hms, hname⟩ := exists_exec_of_beginsKey hkey pre.getLast?
    refine ⟨pre, s, ms, rfl, ?_, hname⟩
    unfold execKey
    rw [if_pos hstart, hms]

/-! ## The table

The text between the name of the table and its end, which is found at the first place where there is one.
-/

def tableName : Text := "EVENT_QUEUE_ROUTING".toList

/-- What stands between the first brace after the first `EVENT_QUEUE_ROUTING` and the first closing
brace with a semicolon after it, at the beginning of a line. -/
def IsTable (source body : Text) : Prop :=
  ∃ pre gap rest, source = pre ++ (tableName ++ (gap ++ '\x7b' :: (body ++ (close ++ rest)))) ∧
    (∀ pre' post, source = pre' ++ (tableName ++ post) → pre.length ≤ pre'.length) ∧
    (∀ c ∈ gap, c ≠ '\x7b') ∧ ∀ pre' post, body ++ close = pre' ++ close ++ post → post = []

/-- A table is in one place. -/
theorem isTable_unique {source body body' : Text} (h : IsTable source body) (h' : IsTable source body') :
    body = body' := by
  obtain ⟨pre, gap, rest, hsource, hfirst, hgap, hbody⟩ := h
  obtain ⟨pre', gap', rest', hsource', hfirst', hgap', hbody'⟩ := h'
  have hlength : pre.length = pre'.length :=
    le_antisymm (hfirst pre' _ hsource') (hfirst' pre _ hsource)
  obtain ⟨-, hrest⟩ := List.append_inj (hsource.symm.trans hsource') hlength
  have hrest := List.append_cancel_left hrest
  have hbrace : ∀ {x : Text}, ∀ c ∈ ('\x7b' :: x).head?, decide (c ≠ '\x7b') = false := by
    rintro x _ ⟨⟩
    decide
  obtain ⟨-, hrest⟩ := run_unique (p := fun c => c ≠ '\x7b') (fun c hc => decide_eq_true (hgap c hc))
    (fun c hc => decide_eq_true (hgap' c hc)) hbrace hbrace hrest
  exact (first_unique hbody hbody' (List.cons.inj hrest).2).1

/-- Where the expression matches, there is a table. -/
theorem exists_of_exec_table {prev : Option Char} {s : Text} {ms : List Text}
    (h : exec routingTablePattern prev s = some ms) :
    ∃ gap rest, s = tableName ++ (gap ++ '\x7b' :: (ms.getD 21 [] ++ (close ++ rest))) ∧
      (∀ c ∈ gap, c ≠ '\x7b') ∧
        ∀ pre post, ms.getD 21 [] ++ close = pre ++ close ++ post → post = [] := by
  have hparts : routingTablePattern = (literal tableName ++ .star (fun c => c ≠ '\x7b') ::
      literal ['\x7b']) ++ (.lazyStar (fun _ => true) :: literal close) := rfl
  rw [hparts] at h
  obtain ⟨ms₁, ms₂, s', rfl, rfl, hhead, h⟩ := exec_append h
  obtain ⟨body, ms', s'', rfl, rfl, hclose, hlazy⟩ := exec_lazyStar h
  obtain ⟨rest, rfl, hms'⟩ := exec_sound hclose
  obtain rfl := matches_literal.mp hms'
  rw [flatten_map_singleton] at hlazy
  obtain ⟨name, ms₁, rfl, hname, hrest⟩ := matches_append.mp hhead
  obtain rfl := matches_literal.mp hname
  obtain ⟨gap, _, rfl, hgap, hbrace⟩ := hrest
  obtain rfl := matches_literal.mp hbrace
  have hbody : ((tableName.map fun c => [c]) ++ gap :: (['\x7b'].map fun c => [c]) ++
      body :: close.map fun c => [c]).getD 21 [] = body := rfl
  rw [hbody]
  refine ⟨gap, rest, ?_, fun c hc => of_decide_eq_true (hgap c hc), first_of_lazy hlazy⟩
  simp only [List.flatten_append, List.flatten_cons, flatten_map_singleton, List.append_assoc,
    List.singleton_append]

/-- The first brace before some text. -/
theorem exists_first_brace (y z : Text) : ∃ gap w, y ++ '\x7b' :: z = gap ++ '\x7b' :: (w ++ z) ∧
    ∀ c ∈ gap, c ≠ '\x7b' := by
  induction y with
  | nil => exact ⟨[], [], rfl, fun c hc => by cases hc⟩
  | cons c y ih =>
    by_cases hc : c = '\x7b'
    · exact ⟨[], y ++ ['\x7b'], by simp [hc], fun c hc => by cases hc⟩
    · obtain ⟨gap, w, heq, hgap⟩ := ih
      refine ⟨c :: gap, w, by rw [List.cons_append, heq, List.cons_append], ?_⟩
      exact List.forall_mem_cons.mpr ⟨hc, hgap⟩

/-- The expression matches where the name of the table stands, if a brace and then an end come after
it. -/
theorem isSome_exec_table (prev : Option Char) (y z rest : Text) :
    (exec routingTablePattern prev
        (tableName ++ (y ++ '\x7b' :: (z ++ (close ++ rest))))).isSome = true := by
  obtain ⟨gap, w, heq, hgap⟩ := exists_first_brace y (z ++ (close ++ rest))
  have hmatches : Matches routingTablePattern prev ((tableName.map fun c => [c]) ++ gap :: ([['\x7b']] ++
      ((w ++ z) :: close.map fun c => [c]))) rest :=
    matches_append.mpr ⟨_, _, rfl, matches_literal.mpr rfl, _, _, rfl,
      fun c hc => decide_eq_true (hgap c hc), matches_append.mpr ⟨_, _, rfl, matches_literal.mpr rfl,
        _, _, rfl, fun _ _ => rfl, matches_literal.mpr rfl⟩⟩
  have hsome := exec_complete hmatches
  simp only [List.flatten_append, List.flatten_cons, flatten_map_singleton, List.append_assoc,
    List.cons_append] at hsome
  rw [heq]
  exact hsome

/-- The check finds the table of a source. -/
theorem exists_search_iff {source body : Text} :
    (∃ ms, search routingTablePattern none source = some ms ∧ ms.getD 21 [] = body) ↔
      IsTable source body := by
  have hfound : ∀ ms, search routingTablePattern none source = some ms →
      IsTable source (ms.getD 21 []) := by
    intro ms hms
    obtain ⟨pre, s, hsource, hexec, hfirst⟩ := first_of_search hms
    obtain ⟨gap, rest, rfl, hgap, hbody⟩ := exists_of_exec_table hexec
    refine ⟨pre, gap, rest, hsource, fun pre' post hpost => ?_, hgap, hbody⟩
    by_contra hlt
    -- an earlier name has the same brace and the same end after it
    obtain ⟨x, hx⟩ : pre' ++ tableName <+: pre ++ tableName := by
      have hearlier : pre' ++ tableName <+: source := ⟨post, by simp [hpost]⟩
      have hlater : pre ++ tableName <+: source :=
        ⟨gap ++ '\x7b' :: (ms.getD 21 [] ++ (close ++ rest)), by simp [hsource]⟩
      refine List.prefix_of_prefix_length_le hearlier hlater ?_
      rw [List.length_append, List.length_append]
      omega
    have hpost' : post = x ++ gap ++ '\x7b' :: (ms.getD 21 [] ++ (close ++ rest)) := by
      have hsame : pre' ++ tableName ++ post =
          pre' ++ tableName ++ (x ++ gap ++ '\x7b' :: (ms.getD 21 [] ++ (close ++ rest))) := by
        rw [List.append_assoc, ← hpost, hsource, ← List.append_assoc, ← hx]
        simp
      exact List.append_cancel_left hsame
    have hnone := hfirst pre' (tableName ++ post) hpost (not_le.mp hlt)
    have hsome := isSome_exec_table (last none pre') (x ++ gap) (ms.getD 21 []) rest
    rw [← hpost', hnone] at hsome
    cases hsome
  constructor
  · rintro ⟨ms, hms, rfl⟩
    exact hfound ms hms
  · intro h
    obtain ⟨pre, gap, rest, hsource, -⟩ := id h
    obtain ⟨ms, hms⟩ := Option.isSome_iff_exists.mp
      (isSome_exec_table (last none pre) gap body rest)
    obtain ⟨rest', hs, hmatches⟩ := exec_sound hms
    have hsome := search_complete hmatches
    rw [← hs, ← hsource] at hsome
    obtain ⟨ms', hms'⟩ := Option.isSome_iff_exists.mp hsome
    exact ⟨ms', hms', isTable_unique (hfound ms' hms') h⟩

/-! ## When the check passes

The conditions on the files and on the table, without the matcher.
-/

/-- The check passes exactly if there is a table, and every class that an event file declares is one of
its keys. -/
theorem outboxRouting_passes_iff (srcDir : Text) (entries : List Entry) (routingSource : Text) :
    exitCode srcDir entries routingSource = 0 ↔ ∃ body, IsTable routingSource body ∧
      ∀ entry ∈ entries, ∀ full content, Holds srcDir entry full content → isEventFile full = true →
        ∀ names, Division BeginsClass content names → ∀ name ∈ names, IsKey body name := by
  -- the two sets of names, in the terms of the property
  have hcovered : ∀ body, (∀ name ∈ discoveredEvents srcDir entries, name ∈ routedEvents body) ↔
      ∀ entry ∈ entries, ∀ full content, Holds srcDir entry full content → isEventFile full = true →
        ∀ names, Division BeginsClass content names → ∀ name ∈ names, IsKey body name := by
    intro body
    simp only [mem_discoveredEvents_iff, mem_routedEvents_iff]
    constructor
    · intro h entry hentry full content hholds hevent names hnames name hname
      exact h name ⟨entry, hentry, full, content, hholds, hevent, names, hnames, hname⟩
    · rintro h name ⟨entry, hentry, full, content, hholds, hevent, names, hnames, hname⟩
      exact h entry hentry full content hholds hevent names hnames name hname
  simp only [← hcovered, ← exists_search_iff]
  unfold exitCode outcome
  rcases search routingTablePattern none routingSource with _ | ms
  · simp
  · -- the script counts the names it does not find in the table
    have hunrouted : (discoveredEvents srcDir entries).filter
        (fun name => !(routedEvents (ms.getD 21 [])).contains name) = [] ↔
        ∀ name ∈ discoveredEvents srcDir entries, name ∈ routedEvents (ms.getD 21 []) := by
      simp [List.filter_eq_nil_iff]
    have hbody : (∃ body, (∃ ms', some ms = some ms' ∧ ms'.getD 21 [] = body) ∧
        ∀ name ∈ discoveredEvents srcDir entries, name ∈ routedEvents body) ↔
        ∀ name ∈ discoveredEvents srcDir entries, name ∈ routedEvents (ms.getD 21 []) := by
      constructor
      · rintro ⟨body, ⟨ms', ⟨⟩, rfl⟩, h⟩
        exact h
      · intro h
        exact ⟨_, ⟨ms, rfl, rfl⟩, h⟩
    rw [hbody, ← hunrouted, ← List.length_eq_zero_iff]
    dsimp only
    split
    · next h => exact iff_of_false Nat.one_ne_zero h.ne'
    · next h => exact iff_of_true rfl (Nat.eq_zero_of_not_pos h)

end EmailTriage.CheckOutboxRouting
