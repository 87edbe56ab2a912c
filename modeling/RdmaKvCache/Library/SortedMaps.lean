import Mathlib.Data.List.Basic

/-!
# Maps sorted by their keys

A map whose entries are kept in the order of their keys, as a search tree yields
them when it is traversed.  Assigning to a key replaces its entry or puts a new one
in its place in the order; reading through the key's reference inserts a default
value first when there is no entry.
-/

namespace SortedMaps

universe u v w

variable {Key : Type u} {Value : Type v}

/-- Go through the entries until one of them stops the traversal. -/
def traverseEntries {Stop : Type w} (visit : Key → Value → Option Stop × Value) :
    List (Key × Value) → Option Stop × List (Key × Value)
  | [] => (none, [])
  | (key, value) :: rest =>
      match visit key value with
      | (some stop, last) => (some stop, (key, last) :: rest)
      | (none, next) =>
          let (stop, others) := traverseEntries visit rest
          (stop, (key, next) :: others)

section Traversal

variable {Stop : Type w} {visit : Key → Value → Option Stop × Value}

theorem traverseEntries_keys (entries : List (Key × Value)) :
    (traverseEntries visit entries).2.map Prod.fst =
      entries.map Prod.fst := by
  induction entries with
  | nil =>
      rfl
  | cons head rest inductionHypothesis =>
      obtain ⟨key, value⟩ := head
      rw [traverseEntries]
      rcases visit key value with ⟨stop, next⟩
      cases stop with
      | none =>
          simp only [List.map_cons, inductionHypothesis]
      | some stop =>
          rfl

/-- The traversal gets to the end if no entry stops it. -/
theorem traverseEntries_fst_eq_none {entries : List (Key × Value)} :
    (traverseEntries visit entries).1 = none ↔
      ∀ entry ∈ entries, (visit entry.1 entry.2).1 = none := by
  induction entries with
  | nil =>
      simp [traverseEntries]
  | cons head rest inductionHypothesis =>
      obtain ⟨key, value⟩ := head
      rw [List.forall_mem_cons, ← inductionHypothesis, traverseEntries]
      rcases visit key value with ⟨stop, next⟩
      cases stop with
      | none =>
          simp
      | some stop =>
          simp

end Traversal

variable [LT Key]

/-- The entries, in the order in which they are traversed. -/
structure SortedMap (Key : Type u) (Value : Type v) [LT Key] where
  entries : List (Key × Value)
  sorted : entries.Pairwise fun first second => first.1 < second.1

namespace SortedMap

def values (map : SortedMap Key Value) : List Value :=
  map.entries.map Prod.snd

def lookup [DecidableEq Key] (map : SortedMap Key Value) (key : Key) :
    Option Value :=
  (map.entries.find? fun entry => decide (entry.1 = key)).map Prod.snd

theorem lookup_eq_none
    [DecidableEq Key] {map : SortedMap Key Value} {key : Key} :
    map.lookup key = none ↔ ∀ entry ∈ map.entries, entry.1 ≠ key := by
  simp only [lookup, Option.map_eq_none_iff, List.find?_eq_none,
    decide_eq_true_eq, ne_eq]

theorem mem_of_lookup
    [DecidableEq Key] {map : SortedMap Key Value} {key : Key} {value : Value}
    (found : map.lookup key = some value) :
    (key, value) ∈ map.entries := by
  obtain ⟨entry, isFound, isValue⟩ := Option.map_eq_some_iff.mp found
  have passes := List.find?_some isFound
  have isKey : entry.1 = key := of_decide_eq_true passes
  rw [← isKey, ← isValue]
  exact List.mem_of_find?_eq_some isFound

variable [LE Key] [Std.LawfulOrderLT Key]

theorem eq_of_same_key
    {map : SortedMap Key Value} {first second : Key × Value}
    (firstListed : first ∈ map.entries) (secondListed : second ∈ map.entries)
    (same : first.1 = second.1) :
    first = second := by
  obtain ⟨entries, sorted⟩ := map
  induction entries with
  | nil =>
      cases firstListed
  | cons head rest inductionHypothesis =>
      obtain ⟨headFirst, restSorted⟩ := List.pairwise_cons.mp sorted
      rcases List.mem_cons.mp firstListed with firstHead | firstLater
      · rcases List.mem_cons.mp secondListed with secondHead | secondLater
        · rw [firstHead, secondHead]
        · have less := headFirst second secondLater
          rw [← firstHead, same] at less
          exact absurd less Std.lt_irrefl
      · rcases List.mem_cons.mp secondListed with secondHead | secondLater
        · have less := headFirst first firstLater
          rw [← secondHead, same] at less
          exact absurd less Std.lt_irrefl
        · exact inductionHypothesis restSorted firstLater secondLater

variable [Std.IsLinearOrder Key]

/-- The first value that meets a test is the one with the least key. -/
theorem find?_values_eq_some
    {map : SortedMap Key Value} {test : Value → Bool} {value : Value} :
    map.values.find? test = some value ↔
      test value = true ∧
        ∃ key, (key, value) ∈ map.entries ∧
          ∀ entry ∈ map.entries, entry.1 < key → test entry.2 = false := by
  obtain ⟨entries, sorted⟩ := map
  rw [values]
  induction entries with
  | nil =>
      constructor
      · intro found
        cases found
      · intro least
        obtain ⟨_, _, listed, _⟩ := least
        cases listed
  | cons head rest inductionHypothesis =>
      obtain ⟨headFirst, restSorted⟩ := List.pairwise_cons.mp sorted
      have inRest := inductionHypothesis restSorted
      rw [List.map_cons, List.find?_cons]
      cases isHead : test head.2 with
      | true =>
          constructor
          · intro found
            cases found
            refine ⟨isHead, head.1, List.mem_cons_self, ?_⟩
            intro entry listed below
            rcases List.mem_cons.mp listed with same | later
            · rw [same] at below
              exact absurd below Std.lt_irrefl
            · exact absurd (headFirst entry later) (Std.not_lt.mpr
                (Std.le_of_lt below))
          · intro least
            obtain ⟨passes, key, listed, first⟩ := least
            rcases List.mem_cons.mp listed with same | later
            · rw [← same]
            · have fails :=
                first head List.mem_cons_self (headFirst _ later)
              rw [isHead] at fails
              cases fails
      | false =>
          refine inRest.trans (and_congr_right ?_)
          intro passes
          constructor
          · intro least
            obtain ⟨key, listed, first⟩ := least
            refine ⟨key, List.mem_cons_of_mem head listed, ?_⟩
            intro entry entryListed below
            rcases List.mem_cons.mp entryListed with same | later
            · rw [same]
              exact isHead
            · exact first entry later below
          · intro least
            obtain ⟨key, listed, first⟩ := least
            rcases List.mem_cons.mp listed with same | later
            · rw [← same] at isHead
              rw [isHead] at passes
              cases passes
            · refine ⟨key, later, ?_⟩
              intro entry entryLater
              exact first entry (List.mem_cons_of_mem head entryLater)

def traverse {Stop : Type w} (map : SortedMap Key Value)
    (visit : Key → Value → Option Stop × Value) :
    Option Stop × SortedMap Key Value :=
  ((traverseEntries visit map.entries).1,
    { entries := (traverseEntries visit map.entries).2
      sorted := by
        apply List.pairwise_map.mp
        rw [traverseEntries_keys]
        exact List.pairwise_map.mpr map.sorted })

end SortedMap

variable [DecidableLT Key]

/-- Replace the entry of the key, or put it before the first greater key. -/
def insertEntry (key : Key) (value : Value) :
    List (Key × Value) → List (Key × Value)
  | [] => [(key, value)]
  | entry :: rest =>
      if key < entry.1 then
        (key, value) :: entry :: rest
      else if entry.1 < key then
        entry :: insertEntry key value rest
      else
        (key, value) :: rest

theorem mem_insertEntry
    {key : Key} {value : Value} {entries : List (Key × Value)}
    {entry : Key × Value} (member : entry ∈ insertEntry key value entries) :
    entry = (key, value) ∨ entry ∈ entries := by
  induction entries with
  | nil =>
      exact Or.inl (List.mem_singleton.mp member)
  | cons head rest inductionHypothesis =>
      rw [insertEntry] at member
      split at member
      · exact List.mem_cons.mp member
      · split at member
        · rcases List.mem_cons.mp member with isHead | later
          · exact Or.inr (List.mem_cons.mpr (Or.inl isHead))
          · rcases inductionHypothesis later with isNew | old
            · exact Or.inl isNew
            · exact Or.inr (List.mem_cons_of_mem head old)
        · rcases List.mem_cons.mp member with isNew | old
          · exact Or.inl isNew
          · exact Or.inr (List.mem_cons_of_mem head old)

variable [LE Key] [Std.IsLinearOrder Key] [Std.LawfulOrderLT Key]

theorem sorted_insertEntry
    (key : Key) (value : Value) {entries : List (Key × Value)}
    (sorted : entries.Pairwise fun first second => first.1 < second.1) :
    (insertEntry key value entries).Pairwise fun first second =>
      first.1 < second.1 := by
  induction entries with
  | nil =>
      exact List.pairwise_singleton _ _
  | cons head rest inductionHypothesis =>
      obtain ⟨headFirst, restSorted⟩ := List.pairwise_cons.mp sorted
      rw [insertEntry]
      split
      · rename_i below
        refine List.pairwise_cons.mpr ⟨?_, sorted⟩
        intro entry listed
        rcases List.mem_cons.mp listed with isHead | later
        · rw [isHead]
          exact below
        · exact Std.lt_trans below (headFirst entry later)
      · rename_i notBelow
        split
        · rename_i above
          refine
            List.pairwise_cons.mpr ⟨?_, inductionHypothesis restSorted⟩
          intro entry listed
          rcases mem_insertEntry listed with isNew | old
          · rw [isNew]
            exact above
          · exact headFirst entry old
        · rename_i notAbove
          have same : key = head.1 :=
            Std.le_antisymm (Std.not_lt.mp notAbove) (Std.not_lt.mp notBelow)
          refine List.pairwise_cons.mpr ⟨?_, restSorted⟩
          intro entry later
          rw [same]
          exact headFirst entry later

/-- A new key makes one more entry. -/
theorem insertEntry_perm
    {key : Key} {value : Value} {entries : List (Key × Value)}
    (absent : ∀ entry ∈ entries, entry.1 ≠ key) :
    (insertEntry key value entries).Perm ((key, value) :: entries) := by
  induction entries with
  | nil =>
      exact List.Perm.refl _
  | cons head rest inductionHypothesis =>
      obtain ⟨notHead, notRest⟩ := List.forall_mem_cons.mp absent
      rw [insertEntry]
      split
      · exact List.Perm.refl _
      · rename_i notBelow
        split
        · exact
            ((inductionHypothesis notRest).cons head).trans
              (List.Perm.swap _ _ _)
        · rename_i notAbove
          exact
            absurd
              (Std.le_antisymm (Std.not_lt.mp notBelow)
                (Std.not_lt.mp notAbove))
              notHead

namespace SortedMap

def empty : SortedMap Key Value := ⟨[], List.Pairwise.nil⟩

def insert (map : SortedMap Key Value) (key : Key) (value : Value) :
    SortedMap Key Value where
  entries := insertEntry key value map.entries
  sorted := sorted_insertEntry key value map.sorted

variable [DecidableEq Key]

theorem values_insert_perm
    {map : SortedMap Key Value} {key : Key} (absent : map.lookup key = none)
    (value : Value) :
    (map.insert key value).values.Perm (value :: map.values) :=
  (insertEntry_perm (lookup_eq_none.mp absent)).map Prod.snd

/-- What the map holds after its entry for a key is read through a reference. -/
def touch (map : SortedMap Key Value) (key : Key) (default : Value) :
    SortedMap Key Value :=
  if (map.lookup key).isSome then map else map.insert key default

theorem lookup_insert
    (map : SortedMap Key Value) (key other : Key) (value : Value) :
    (map.insert key value).lookup other =
      if other = key then some value else map.lookup other := by
  obtain ⟨entries, sorted⟩ := map
  rw [lookup, lookup, insert]
  simp only
  clear sorted
  induction entries with
  | nil =>
      by_cases isKey : other = key
      · simp [insertEntry, isKey]
      · simp [insertEntry, isKey, Ne.symm isKey]
  | cons head rest inductionHypothesis =>
      rw [insertEntry]
      split
      · by_cases isKey : other = key
        · simp [isKey]
        · simp [isKey, Ne.symm isKey]
      · rename_i notBelow
        split
        · rename_i above
          rw [List.find?_cons, List.find?_cons]
          by_cases isHead : head.1 = other
          · have notKey : other ≠ key := by
              intro isKey
              rw [isHead, isKey] at above
              exact Std.lt_irrefl above
            simp [isHead, notKey]
          · simpa [isHead] using inductionHypothesis
        · rename_i notAbove
          have same : head.1 = key :=
            Std.le_antisymm (Std.not_lt.mp notBelow) (Std.not_lt.mp notAbove)
          by_cases isKey : other = key
          · simp [isKey]
          · simp [isKey, same, Ne.symm isKey]

theorem lookup_touch
    (map : SortedMap Key Value) (key other : Key) (default : Value) :
    (map.touch key default).lookup other =
      if other = key then some ((map.lookup key).getD default)
      else map.lookup other := by
  rw [touch]
  cases found : map.lookup key with
  | none =>
      rw [if_neg (by simp), lookup_insert]
      rfl
  | some value =>
      rw [if_pos Option.isSome_some]
      by_cases isKey : other = key
      · rw [if_pos isKey, isKey]
        exact found
      · rw [if_neg isKey]

theorem touch_of_isSome
    {map : SortedMap Key Value} {key : Key} (present : (map.lookup key).isSome)
    (default : Value) :
    map.touch key default = map :=
  if_pos present

end SortedMap

end SortedMaps
