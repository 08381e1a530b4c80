/-
# The binning for a name

Of the binnings whose stem a name begins with, those with the longest stem come first, and the
last one among these is chosen. Stems are compared by their bytes. As names are stored in bytes
that tell where a character begins, a name begins with the bytes of a stem just when it begins
with its characters.

Binnings that a name does not match can be edited at will without a change for this name, and one
with the same stem as a later one is never chosen at all.
-/

import Mathlib.Logic.Relation
import Telemetry.Proofs.Registry.Independence

namespace Telemetry

/-- The bytes that a text is stored in. -/
def bytes (text : String) : List UInt8 :=
  text.toByteArray.data.toList

theorem bytes_append (first second : String) :
    bytes (first ++ second) = bytes first ++ bytes second := by
  rw [bytes, String.toByteArray_append, ByteArray.toList_data_append]
  rfl

theorem length_bytes (text : String) : (bytes text).length = text.utf8ByteSize := by
  rw [bytes, Array.length_toList]
  exact String.size_toByteArray

/-- A text that begins with the bytes of another one begins with its characters, too. -/
theorem exists_append_of_bytes {stem name : String} (begins : bytes stem <+: bytes name) :
    ∃ rest, name = stem ++ rest := by
  have within := begins.length_le
  rw [length_bytes, length_bytes] at within
  -- The bytes of the stem are those of some text, so the name can be cut after them.
  have front : name.toByteArray.extract 0 stem.utf8ByteSize = stem.toByteArray := by
    apply ByteArray.ext
    apply Array.toList_inj.mp
    rw [ByteArray.data_extract, Array.toList_extract, ← length_bytes stem]
    simpa [bytes] using (List.prefix_iff_eq_take.mp begins).symm
  have valid : String.Pos.Raw.IsValid name stem.rawEndPos := by
    apply String.Pos.Raw.isValid_iff_isValidUTF8_extract_zero.mpr
    refine ⟨within, ?_⟩
    show (name.toByteArray.extract 0 stem.utf8ByteSize).IsValidUTF8
    rw [front]
    exact stem.isValidUTF8
  obtain ⟨first, rest, rfl, size⟩ := String.Pos.Raw.isValid_iff_exists_append.mp valid
  refine ⟨rest, ?_⟩
  have size : stem.utf8ByteSize = first.utf8ByteSize := congrArg String.Pos.Raw.byteIdx size
  rw [String.toByteArray_append,
    ByteArray.extract_append_eq_left (size.trans String.size_toByteArray.symm)] at front
  rw [String.toByteArray_inj.mp front]

theorem isPrefixOf_iff {stem name : String} :
    stem.isPrefixOf name = true ↔ bytes stem <+: bytes name := by
  constructor
  · intro begins
    obtain ⟨rest, same⟩ := String.startsWith_string_iff.mp begins
    have split : name = stem ++ String.ofList rest := by
      apply String.toList_inj.mp
      rw [String.toList_append, String.toList_ofList, same]
    rw [split, bytes_append]
    exact List.prefix_append _ _
  · intro begins
    obtain ⟨rest, rfl⟩ := exists_append_of_bytes begins
    apply String.startsWith_string_iff.mpr
    rw [String.toList_append]
    exact List.prefix_append _ _

/-- A name is in the scope of a binning if it begins with the bytes of its stem. -/
def Binning.Matches (binning : Binning) (name : String) : Prop :=
  bytes binning.stem <+: bytes name

/-- How long the stem of a binning is. -/
def Binning.reach (binning : Binning) : Nat :=
  (bytes binning.stem).length

namespace Registry

variable {binnings others earlier later : List Binning} {binning chosen hidden last : Binning}
  {name : String} {chosen? : Option Binning}

/-- The choice between what was chosen before and one more binning that matches. -/
def prefer (chosen? : Option Binning) (binning : Binning) : Option Binning :=
  match chosen? with
  | none => some binning
  | some chosen => if binning.reach < chosen.reach then some chosen else some binning

/-- The binnings that a name is in the scope of. -/
def matching (binnings : List Binning) (name : String) : List Binning :=
  binnings.filter fun binning => binning.stem.isPrefixOf name

theorem matching_append (earlier later : List Binning) (name : String) :
    matching (earlier ++ later) name = matching earlier name ++ matching later name :=
  List.filter_append _ _

theorem matching_cons_of_matches (begins : binning.Matches name) (later : List Binning) :
    matching (binning :: later) name = binning :: matching later name :=
  List.filter_cons_of_pos (isPrefixOf_iff.mpr begins)

theorem matching_cons_of_not_matches (apart : ¬ binning.Matches name) (later : List Binning) :
    matching (binning :: later) name = matching later name :=
  List.filter_cons_of_neg fun begins => apart (isPrefixOf_iff.mp begins)

theorem binningFor_eq_foldl (binnings : List Binning) (name : String) :
    binningFor binnings name = (matching binnings name).foldl prefer none := by
  have same : prefer = fun chosen? binning =>
      match chosen? with
      | none => some binning
      | some chosen =>
        if binning.stem.utf8ByteSize < chosen.stem.utf8ByteSize then some chosen
        else some binning := by
    funext chosen? binning
    cases chosen? with
    | none => rfl
    | some chosen => simp only [prefer, Binning.reach, length_bytes]
  rw [same]
  rfl

/-- Only the binnings that match are looked at. -/
theorem binningFor_congr (same : matching others name = matching binnings name) :
    binningFor others name = binningFor binnings name := by
  rw [binningFor_eq_foldl, same, binningFor_eq_foldl]

/-- What makes a binning the one for a name: it matches, no binning that does has a longer stem,
and a later one that does has a shorter one. -/
def IsChosen (binnings : List Binning) (name : String) (chosen : Binning) : Prop :=
  ∃ earlier later, binnings = earlier ++ chosen :: later ∧ chosen.Matches name ∧
    (∀ binning ∈ earlier, binning.Matches name → binning.reach ≤ chosen.reach) ∧
    ∀ binning ∈ later, binning.Matches name → binning.reach < chosen.reach

theorem IsChosen.reach_le (isChosen : IsChosen binnings name chosen) :
    ∀ binning ∈ binnings, binning.Matches name → binning.reach ≤ chosen.reach := by
  obtain ⟨earlier, later, rfl, -, before, after⟩ := isChosen
  intro binning listed begins
  rcases List.mem_append.mp listed with among | among
  · exact before binning among begins
  · rcases List.mem_cons.mp among with rfl | among
    · exact le_rfl
    · exact (after binning among begins).le

theorem binningFor_append_singleton (binnings : List Binning) (last : Binning) (name : String) :
    binningFor (binnings ++ [last]) name =
      if last.stem.isPrefixOf name then prefer (binningFor binnings name) last
      else binningFor binnings name := by
  simp only [binningFor_eq_foldl, matching_append]
  split
  · rename_i begins
    rw [matching_cons_of_matches (isPrefixOf_iff.mp begins), List.foldl_append]
    rfl
  · rename_i apart
    rw [matching_cons_of_not_matches fun begins => apart (isPrefixOf_iff.mpr begins)]
    exact congrArg (List.foldl prefer none) (List.append_nil _)

/-- A binning that does not win in the end leaves the choice as it is. -/
theorem IsChosen.append (isChosen : IsChosen binnings name chosen)
    (shorter : last.Matches name → last.reach < chosen.reach) :
    IsChosen (binnings ++ [last]) name chosen := by
  obtain ⟨earlier, later, rfl, begins, before, after⟩ := isChosen
  refine ⟨earlier, later ++ [last], by simp, begins, before, ?_⟩
  intro binning listed also
  rcases List.mem_append.mp listed with among | among
  · exact after binning among also
  · cases List.mem_singleton.mp among
    exact shorter also

theorem isChosen_last (begins : last.Matches name)
    (most : ∀ binning ∈ binnings, binning.Matches name → binning.reach ≤ last.reach) :
    IsChosen (binnings ++ [last]) name last :=
  ⟨binnings, [], rfl, begins, most, by simp⟩

theorem not_matches_of_binningFor_eq_none :
    binningFor binnings name = none ↔ ∀ binning ∈ binnings, ¬ binning.Matches name := by
  rw [← Option.not_isSome_iff_eq_none, isSome_binningFor_iff]
  simp only [isPrefixOf_iff, Binning.Matches, not_exists, not_and]

/-- Whatever is found is the binning that ought to be chosen. -/
theorem isChosen_of_binningFor (found : binningFor binnings name = some chosen) :
    IsChosen binnings name chosen := by
  induction binnings using List.reverseRecOn generalizing chosen with
  | nil => cases found
  | append_singleton binnings last recursion =>
    rw [binningFor_append_singleton] at found
    split at found
    case isFalse apart =>
      exact (recursion found).append fun begins => absurd (isPrefixOf_iff.mpr begins) apart
    case isTrue begins =>
      have begins := isPrefixOf_iff.mp begins
      cases before : binningFor binnings name with
      | none =>
        rw [before] at found
        cases found
        have none := not_matches_of_binningFor_eq_none.mp before
        exact isChosen_last begins fun binning listed also => absurd also (none binning listed)
      | some winner =>
        have won := recursion before
        rw [before, prefer] at found
        split at found
        case isTrue shorter =>
          cases found
          exact won.append fun _ => shorter
        case isFalse reaches =>
          cases found
          refine isChosen_last begins fun binning listed also => ?_
          exact (won.reach_le binning listed also).trans (not_lt.mp reaches)

/-- One change to binnings that has to do with other names. -/
inductive Edit (name : String) : List Binning → List Binning → Prop
  | add (earlier later : List Binning) {binning : Binning} (apart : ¬ binning.Matches name) :
    Edit name (earlier ++ later) (earlier ++ binning :: later)
  | remove (earlier later : List Binning) {binning : Binning} (apart : ¬ binning.Matches name) :
    Edit name (earlier ++ binning :: later) (earlier ++ later)
  | change (earlier later : List Binning) {before after : Binning} (apart : ¬ before.Matches name)
    (still : ¬ after.Matches name) :
    Edit name (earlier ++ before :: later) (earlier ++ after :: later)

theorem Edit.matching_eq (edit : Edit name binnings others) :
    matching others name = matching binnings name := by
  cases edit with
  | add earlier later apart =>
    rw [matching_append, matching_append, matching_cons_of_not_matches apart]
  | remove earlier later apart =>
    rw [matching_append, matching_append, matching_cons_of_not_matches apart]
  | change earlier later apart still =>
    rw [matching_append, matching_append, matching_cons_of_not_matches apart,
      matching_cons_of_not_matches still]

/-- Two choices so far, of which the first one has seen one binning more: either this has not
been chosen, or it stands where otherwise nothing with a longer stem would. -/
def Hides (hidden : Binning) (seen? unseen? : Option Binning) : Prop :=
  seen? = unseen? ∨
    seen? = some hidden ∧ ∀ chosen, unseen? = some chosen → chosen.reach ≤ hidden.reach

theorem hides_prefer (hidden : Binning) (chosen? : Option Binning) :
    Hides hidden (prefer chosen? hidden) chosen? := by
  cases chosen? with
  | none => exact .inr ⟨rfl, by simp⟩
  | some chosen =>
    rw [prefer]
    split
    · exact .inl rfl
    · rename_i reaches
      refine .inr ⟨rfl, fun other same => ?_⟩
      cases same
      exact not_lt.mp reaches

/-- The next binning is preferred on both sides, or its stem is too short for the first one. -/
theorem Hides.step {seen? unseen? : Option Binning} (hides : Hides hidden seen? unseen?)
    (next : Binning) : Hides hidden (prefer seen? next) (prefer unseen? next) := by
  rcases hides with rfl | ⟨rfl, most⟩
  · exact .inl rfl
  · cases unseen? with
    | none =>
      by_cases shorter : next.reach < hidden.reach
      · refine .inr ⟨if_pos shorter, ?_⟩
        rintro _ ⟨⟩
        exact shorter.le
      · exact .inl (if_neg shorter)
    | some chosen =>
      have least := most chosen rfl
      by_cases shorter : next.reach < hidden.reach
      · refine .inr ⟨if_pos shorter, ?_⟩
        intro winner won
        rw [prefer] at won
        split at won
        · cases won
          exact least
        · cases won
          exact shorter.le
      · have reaches : ¬ next.reach < chosen.reach := by omega
        refine .inl ?_
        rw [prefer, prefer, if_neg shorter, if_neg reaches]

theorem Hides.foldl {seen? unseen? : Option Binning} (hides : Hides hidden seen? unseen?)
    (later : List Binning) :
    Hides hidden (later.foldl prefer seen?) (later.foldl prefer unseen?) := by
  induction later generalizing seen? unseen? with
  | nil => exact hides
  | cons next later recursion => exact recursion (hides.step next)

/-- With a stem as long, the last binning is preferred on both sides. -/
theorem Hides.prefer_eq {seen? unseen? : Option Binning} (hides : Hides hidden seen? unseen?)
    (same : last.reach = hidden.reach) : prefer seen? last = prefer unseen? last := by
  rcases hides with rfl | ⟨rfl, most⟩
  · rfl
  · have kept : ¬ last.reach < hidden.reach := by omega
    cases unseen? with
    | none => exact if_neg kept
    | some chosen =>
      have least := most chosen rfl
      have beaten : ¬ last.reach < chosen.reach := by omega
      rw [prefer, prefer, if_neg kept, if_neg beaten]

/-- A binning is never chosen where a later one has the same stem. -/
theorem binningFor_hidden (earlier between later : List Binning) (same : hidden.stem = last.stem)
    (name : String) :
    binningFor (earlier ++ hidden :: (between ++ last :: later)) name =
      binningFor (earlier ++ (between ++ last :: later)) name := by
  by_cases begins : hidden.Matches name
  · have also : last.Matches name := by rwa [Binning.Matches, ← same]
    have reaches : last.reach = hidden.reach := by rw [Binning.reach, Binning.reach, same]
    have hides := (hides_prefer hidden ((matching earlier name).foldl prefer none)).foldl
      (matching between name)
    simp only [binningFor_eq_foldl, matching_append, matching_cons_of_matches begins,
      matching_cons_of_matches also, List.foldl_append, List.foldl_cons]
    rw [hides.prefer_eq reaches]
  · apply binningFor_congr
    rw [matching_append, matching_append, matching_cons_of_not_matches begins]

/-- There is no binning for a name that none matches. Else it is one with the longest stem, and the
last of these. Edits of binnings that do not match leave it as it is, and so does the removal of one
whose stem comes again. -/
theorem last_of_longest (binnings : List Binning) (name : String) :
    (binningFor binnings name = none ↔ ∀ binning ∈ binnings, ¬ binning.Matches name) ∧
      (∀ chosen, binningFor binnings name = some chosen → IsChosen binnings name chosen) ∧
      (∀ others, Relation.ReflTransGen (Edit name) binnings others →
        binningFor others name = binningFor binnings name) ∧
      ∀ earlier hidden between last later,
        binnings = earlier ++ hidden :: (between ++ last :: later) → hidden.stem = last.stem →
          binningFor (earlier ++ (between ++ last :: later)) name = binningFor binnings name := by
  refine ⟨not_matches_of_binningFor_eq_none, fun chosen => isChosen_of_binningFor, ?_, ?_⟩
  · intro others edits
    induction edits with
    | refl => rfl
    | tail _ edit recursion => exact (binningFor_congr edit.matching_eq).trans recursion
  · rintro earlier hidden between last later rfl same
    exact (binningFor_hidden earlier between later same name).symm

/-- A stem that comes twice, and one that every name begins with. -/
theorem last_of_longest_repeated :
    let first : Binning := ⟨"é", 0, 100, 50⟩
    let every : Binning := ⟨"", 0, 1, 1⟩
    let last : Binning := ⟨"é", 0, 100, 10⟩
    let other : Binning := ⟨"e", 0, 1, 1⟩
    ¬ other.Matches "été" ∧ binningFor [first, every, last] "été" = some last ∧
      binningFor [first, every, last, other] "été" = binningFor [first, every, last] "été" ∧
      binningFor [every, last] "été" = binningFor [first, every, last] "été" ∧
      IsChosen [first, every, last] "été" last := by
  intro first every last other
  have accented : bytes "é" <+: bytes "été" := by decide
  have begins : first.Matches "été" := accented
  have always : every.Matches "été" := List.nil_prefix
  have again : last.Matches "été" := accented
  have apart : ¬ other.Matches "été" := by unfold Binning.Matches; decide
  have longer : every.reach < first.reach := by unfold Binning.reach; decide
  have kept : ¬ last.reach < first.reach := by unfold Binning.reach; decide
  have found : binningFor [first, every, last] "été" = some last := by
    rw [binningFor_eq_foldl, matching_cons_of_matches begins, matching_cons_of_matches always,
      matching_cons_of_matches again]
    simp only [matching, List.filter_nil, List.foldl_cons, List.foldl_nil, prefer, if_pos longer]
    exact if_neg kept
  have added : Edit "été" ([first, every, last] ++ []) ([first, every, last] ++ other :: []) :=
    .add _ _ apart
  obtain ⟨-, chosen, edited, hidden⟩ := last_of_longest [first, every, last] "été"
  exact ⟨apart, found, edited _ (.single added), hidden [] first [every] last [] rfl rfl,
    chosen last found⟩

end Registry

end Telemetry
