/-
# A list of samples as a sequence

A list represents a sequence of entries when its nodes form one chain from head to tail
and the arena holds nothing else: every other slot is empty, and the ones that were made
are waiting to be used again, each once. Under this view adding, removing and widening
change the one entry they name and leave the slot of every other entry alone, which is
what lets a cursor keep a slot while the list changes around it.
-/

import Telemetry.Proofs.Quantile.Chain

namespace Telemetry.Quantile.SampleList

/-- Exactly the slots in `owned` hold nodes, and every other slot that was ever made is
free, once. -/
structure Owns (list : SampleList) (owned : List Slot) : Prop where
  nodup : owned.Nodup
  free_nodup : list.free.Nodup
  mem_free : ∀ slot, slot ∈ list.free ↔ slot < list.slots.size ∧ slot ∉ owned
  inside : ∀ slot ∈ owned, slot < list.slots.size
  vacant : ∀ slot, slot ∉ owned → list.node? slot = none
  length : list.length = owned.length

/-- The list consists of exactly these entries, in this order. -/
structure Represents (list : SampleList) (entries : List Entry) : Prop where
  owns : list.Owns (slotsOf entries)
  chain : list.Chain none entries none
  head : list.head = firstSlot none entries
  tail : list.tail = lastSlot none entries

variable {list : SampleList} {owned : List Slot} {earlier later : List Entry} {entry : Entry}

theorem Owns.perm {other : List Slot} (owns : list.Owns owned) (perm : owned.Perm other) :
    list.Owns other where
  nodup := perm.nodup_iff.mp owns.nodup
  free_nodup := owns.free_nodup
  mem_free slot := by rw [owns.mem_free, perm.mem_iff]
  inside slot member := owns.inside slot (perm.mem_iff.mpr member)
  vacant slot absent := owns.vacant slot fun member => absent (perm.mem_iff.mp member)
  length := owns.length.trans perm.length_eq

theorem Owns.link (owns : list.Owns owned) (first? second? : Option Slot) :
    (list.link first? second?).Owns owned where
  nodup := owns.nodup
  free_nodup := by simpa using owns.free_nodup
  mem_free := by simpa using owns.mem_free
  inside := by simpa using owns.inside
  vacant slot absent := by rw [node?_link, owns.vacant slot absent, Option.map_none]
  length := by simpa using owns.length

theorem Owns.adjust (owns : list.Owns owned) (slot : Slot) (change : Node → Node) :
    (list.adjust slot change).Owns owned where
  nodup := owns.nodup
  free_nodup := owns.free_nodup
  mem_free := by simpa [SampleList.adjust] using owns.mem_free
  inside := by simpa [SampleList.adjust] using owns.inside
  vacant other absent := by rw [node?_adjust, owns.vacant other absent, Option.map_none]
  length := owns.length

@[simp] theorem head_place (list : SampleList) (node : Node) :
    (list.place node).1.head = list.head := by
  unfold place
  split <;> rfl

@[simp] theorem tail_place (list : SampleList) (node : Node) :
    (list.place node).1.tail = list.tail := by
  unfold place
  split <;> rfl

/-- A node is put into a slot that held none. -/
theorem Owns.not_mem_place (owns : list.Owns owned) (node : Node) :
    (list.place node).2 ∉ owned := by
  unfold place
  split
  · rename_i slot free isFree
    exact ((owns.mem_free slot).mp (by rw [isFree]; exact List.mem_cons_self)).2
  · exact fun member => absurd (owns.inside _ member) (Nat.lt_irrefl _)

theorem Owns.node?_place (owns : list.Owns owned) (node : Node) (other : Slot) :
    (list.place node).1.node? other =
      if (list.place node).2 = other then some node else list.node? other := by
  unfold place
  split
  · rename_i slot free isFree
    have inside := ((owns.mem_free slot).mp (by rw [isFree]; exact List.mem_cons_self)).1
    simp only [node?, Array.getElem?_modify]
    split
    · rename_i same
      simp [← same, inside]
    · rfl
  · simp only [node?, Array.getElem?_push]
    split
    · rename_i same
      simp [same]
    · rename_i other
      rw [if_neg (Ne.symm other)]

/-- A slot that was waiting to be used again stops waiting, or else a new one is made. -/
theorem Owns.mem_free_place (owns : list.Owns owned) (node : Node) (slot : Slot) :
    slot ∈ (list.place node).1.free ↔
      slot < (list.place node).1.slots.size ∧ slot ∉ (list.place node).2 :: owned := by
  have waiting := owns.mem_free slot
  have nodup := owns.free_nodup
  unfold place
  split
  · rename_i reused free isFree
    rw [isFree, List.mem_cons] at waiting
    rw [isFree, List.nodup_cons] at nodup
    have apart : slot ∈ free → slot ≠ reused := fun member same => nodup.1 (same ▸ member)
    simp only [Array.size_modify, List.mem_cons]
    tauto
  · rename_i isFree
    rw [isFree] at waiting
    simp only [isFree, List.not_mem_nil, false_iff, Array.size_push, List.mem_cons, not_and,
      not_not] at waiting ⊢
    intro below
    by_cases last : slot = list.slots.size
    · exact Or.inl last
    · exact Or.inr (waiting (Nat.lt_of_le_of_ne (Nat.le_of_lt_succ below) last))

theorem Owns.place (owns : list.Owns owned) (node : Node) :
    (list.place node).1.Owns ((list.place node).2 :: owned) where
  nodup := List.nodup_cons.mpr ⟨owns.not_mem_place node, owns.nodup⟩
  free_nodup := by
    have nodup := owns.free_nodup
    unfold SampleList.place
    split
    · rename_i slot free isFree
      rw [isFree] at nodup
      exact (List.nodup_cons.mp nodup).2
    · exact nodup
  mem_free := owns.mem_free_place node
  inside slot member := by
    have before := owns.inside slot
    have waiting := owns.mem_free
    unfold SampleList.place at member ⊢
    split at member
    · rename_i reused free isFree
      have inside := ((waiting reused).mp (by rw [isFree]; exact List.mem_cons_self)).1
      rcases List.mem_cons.mp member with rfl | member
      · simpa using inside
      · simpa using before member
    · rcases List.mem_cons.mp member with rfl | member
      · simp
      · simpa using Nat.lt_succ_of_lt (before member)
  vacant other absent := by
    rw [List.mem_cons, not_or] at absent
    rw [owns.node?_place, if_neg (Ne.symm absent.1), owns.vacant other absent.2]
  length := by
    rw [List.length_cons, ← owns.length]
    unfold SampleList.place
    split <;> rfl

/-- Emptying a slot gives it up to be used again. -/
theorem Owns.vacate {slot : Slot} (owns : list.Owns (slot :: owned)) :
    Owns { list with
      slots := list.slots.modify slot fun _ => none
      free := slot :: list.free
      length := list.length - 1 } owned where
  nodup := (List.nodup_cons.mp owns.nodup).2
  free_nodup := List.nodup_cons.mpr
    ⟨fun member => ((owns.mem_free slot).mp member).2 List.mem_cons_self, owns.free_nodup⟩
  mem_free other := by
    have inside := owns.inside slot List.mem_cons_self
    have absent := (List.nodup_cons.mp owns.nodup).1
    by_cases same : other = slot
    · subst same
      simp [inside, absent]
    · simp [same, owns.mem_free]
  inside other member := by simpa using owns.inside other (List.mem_cons_of_mem _ member)
  vacant other absent := by
    by_cases same : slot = other
    · subst same
      simp only [node?, Array.getElem?_modify, if_true]
      cases list.slots[slot]? <;> rfl
    · have before := owns.vacant other (by simp [absent, Ne.symm same])
      simpa [node?, Array.getElem?_modify, same] using before
  length := by simp [owns.length]

theorem node_eq_ok_iff {slot : Slot} {node : Node} :
    list.node slot = .ok node ↔ list.node? slot = some node := by
  unfold SampleList.node node?
  cases list.slots[slot]? with
  | none => simp
  | some held => cases held <;> simp

theorem represents_empty : (∅ : SampleList).Represents [] where
  owns := {
    nodup := List.nodup_nil
    free_nodup := List.nodup_nil
    mem_free := by simp [EmptyCollection.emptyCollection, empty]
    inside := by simp
    vacant := by simp [node?, EmptyCollection.emptyCollection, empty]
    length := rfl }
  chain := trivial
  head := rfl
  tail := rfl

theorem Represents.node (represents : list.Represents (earlier ++ entry :: later)) :
    list.node entry.1 = .ok ⟨entry.2, lastSlot none earlier, firstSlot none later⟩ :=
  node_eq_ok_iff.mpr represents.chain.node?

section

variable {entries : List Entry} {slot : Slot} {node : Node}

theorem Represents.mem_slotsOf (represents : list.Represents entries)
    (held : list.node? slot = some node) : slot ∈ slotsOf entries := by
  by_contra absent
  rw [represents.owns.vacant slot absent] at held
  cases held

theorem Represents.exists_node? (represents : list.Represents entries)
    (member : slot ∈ slotsOf entries) : ∃ node, list.node? slot = some node := by
  obtain ⟨earlier, sample, later, rfl⟩ := exists_split_of_mem_slotsOf member
  exact ⟨_, represents.chain.node?⟩

theorem Represents.exists_split (represents : list.Represents entries)
    (held : list.node? slot = some node) :
    ∃ earlier sample later, entries = earlier ++ (slot, sample) :: later :=
  exists_split_of_mem_slotsOf (represents.mem_slotsOf held)

end

theorem nodup_slotsOf_middle {slot : Slot} {sample : Sample} :
    (slotsOf (earlier ++ (slot, sample) :: later)).Nodup ↔
      slot ∉ slotsOf (earlier ++ later) ∧ (slotsOf (earlier ++ later)).Nodup := by
  rw [slotsOf_append, slotsOf_cons, List.perm_middle.nodup_iff, List.nodup_cons, slotsOf_append]

/-- A node put into a slot of its own leaves every chain as it was. -/
theorem Owns.exists_place (owns : list.Owns owned) (node : Node) :
    ∃ grown slot, list.place node = (grown, slot) ∧ slot ∉ owned ∧
      grown.Owns (slot :: owned) ∧ grown.node? slot = some node ∧
      (∀ {before? entries after?}, (∀ other ∈ slotsOf entries, other ∈ owned) →
        list.Chain before? entries after? → grown.Chain before? entries after?) ∧
      grown.head = list.head ∧ grown.tail = list.tail := by
  have fresh := owns.not_mem_place node
  have nodes := owns.node?_place node
  refine ⟨(list.place node).1, (list.place node).2, rfl, fresh, owns.place node, ?_, ?_,
    head_place .., tail_place ..⟩
  · rw [nodes, if_pos rfl]
  intro before? entries after? inside chain
  apply chain.congr
  intro other member
  rw [nodes, if_neg]
  rintro rfl
  exact fresh (inside _ member)

/-- Two chains that together hold every node make up the list once they are linked. -/
theorem Represents.of_link {loose? other? : Option Slot}
    (owns : list.Owns (slotsOf (earlier ++ later))) (front : list.Chain none earlier loose?)
    (back : list.Chain other? later none)
    (head : earlier ≠ [] → list.head = firstSlot none earlier)
    (tail : later ≠ [] → list.tail = lastSlot none later) :
    (list.link (lastSlot none earlier) (firstSlot none later)).Represents (earlier ++ later) where
  owns := owns.link _ _
  chain := front.link back owns.nodup fun _ => rfl
  head := head_link_eq head
  tail := tail_link_eq tail

/-- Adding at the end appends one entry, in a slot of its own. -/
theorem Represents.pushBack {entries : List Entry} (represents : list.Represents entries)
    (sample : Sample) :
    ∃ changed slot, list.pushBack sample = (changed, slot) ∧ slot ∉ slotsOf entries ∧
      changed.Represents (entries ++ [(slot, sample)]) := by
  obtain ⟨grown, slot, placed, fresh, owns, node, kept, head, tail⟩ :=
    represents.owns.exists_place ⟨sample, list.tail, none⟩
  have nodup : (slotsOf (entries ++ [(slot, sample)])).Nodup :=
    nodup_slotsOf_middle.mpr ⟨by simpa using fresh, by simpa using represents.owns.nodup⟩
  have added : grown.Chain list.tail [(slot, sample)] none := ⟨node, trivial⟩
  have linked := (kept (fun _ member => member) represents.chain).link added nodup fun _ => rfl
  have linkedOwns := (owns.perm (List.perm_append_singleton slot _).symm).link
    (lastSlot none entries) (some slot)
  refine ⟨_, slot, by simp only [SampleList.pushBack, placed]; rfl, fresh, ?_⟩
  have final := Represents.of_link (by simpa using linkedOwns) linked
    (show Chain _ none [] none from trivial)
    (fun _ => head_link_eq fun _ => head.trans represents.head) (absurd rfl)
  rw [represents.tail]
  simpa using final

/-- Adding before an entry puts one entry there, in a slot of its own. -/
theorem Represents.insertBefore (represents : list.Represents (earlier ++ entry :: later))
    (sample : Sample) :
    ∃ changed slot, list.insertBefore entry.1 sample = .ok (changed, slot) ∧
      slot ∉ slotsOf (earlier ++ entry :: later) ∧
      changed.Represents (earlier ++ (slot, sample) :: entry :: later) := by
  obtain ⟨grown, slot, placed, fresh, owns, node, kept, head, tail⟩ :=
    represents.owns.exists_place ⟨sample, lastSlot none earlier, some entry.1⟩
  obtain ⟨front, back⟩ := chain_append.mp represents.chain
  have nodup : (slotsOf (earlier ++ (slot, sample) :: entry :: later)).Nodup :=
    nodup_slotsOf_middle.mpr ⟨fresh, represents.owns.nodup⟩
  have added : grown.Chain (lastSlot none earlier) [(slot, sample)] (some entry.1) :=
    ⟨node, trivial⟩
  have frontNodup : (slotsOf (earlier ++ [(slot, sample)])).Nodup := by
    refine nodup.sublist (List.Sublist.map _ ?_)
    exact List.Sublist.append_left (List.singleton_sublist.mpr List.mem_cons_self) _
  have linked := (kept (fun _ member => by simp [member]) front).link added frontNodup (by simp)
  have untouched : (grown.link (lastSlot none earlier) (some slot)).Chain (lastSlot none earlier)
      (entry :: later) none := by
    apply (kept (fun _ member => by simp_all) back).congr
    intro other member
    have disjoint := (List.nodup_append.mp (slotsOf_append .. ▸ represents.owns.nodup)).2.2
    refine node?_link_of_ne (fun last => ?_) (fun same => ?_)
    · exact disjoint other (mem_slotsOf_of_lastSlot last) other member rfl
    · exact fresh (by simp_all)
  have spliced : (slot :: slotsOf (earlier ++ entry :: later)).Perm
      (slotsOf ((earlier ++ [(slot, sample)]) ++ entry :: later)) := by
    simpa using List.perm_middle.symm
  have linkedOwns := (owns.perm spliced).link (lastSlot none earlier) (some slot)
  have linkedHead : (grown.link (lastSlot none earlier) (firstSlot none [(slot, sample)])).head =
      firstSlot none (earlier ++ [(slot, sample)]) := head_link_eq fun nonempty => by
    rw [head, represents.head, firstSlot_append_of_ne_nil nonempty]
  have linkedTail : (grown.link (lastSlot none earlier) (some slot)).tail =
      lastSlot none (entry :: later) := by
    rw [tail_link, if_neg (by simp), tail, represents.tail, lastSlot_append, lastSlot_cons,
      lastSlot_cons]
  have final := Represents.of_link linkedOwns linked untouched (fun _ => linkedHead)
    (fun _ => linkedTail)
  have inserted : list.insertBefore entry.1 sample =
      .ok ((grown.link (lastSlot none earlier) (some slot)).link (some slot) (some entry.1), slot) := by
    simp only [SampleList.insertBefore, represents.node, bind, Except.bind, placed]
    rfl
  exact ⟨_, slot, inserted, fresh, by simpa using final⟩

/-- Removing takes out exactly the entry it names and answers its sample. -/
theorem Represents.remove (represents : list.Represents (earlier ++ entry :: later)) :
    ∃ changed node, list.remove entry.1 = .ok (changed, node) ∧ node.toSample = entry.2 ∧
      changed.Represents (earlier ++ later) := by
  obtain ⟨front, -, back⟩ := chain_append.mp represents.chain
  have node := represents.node
  have owns := (represents.owns.perm (by rw [slotsOf_append, slotsOf_cons]; exact List.perm_middle)).vacate
  rw [← slotsOf_append] at owns
  have absent : entry.1 ∉ slotsOf (earlier ++ later) := (nodup_slotsOf_middle.mp represents.owns.nodup).1
  have nodes (other : Slot) (member : other ∈ slotsOf (earlier ++ later)) :
      SampleList.node? { list with
        slots := list.slots.modify entry.1 fun _ => none
        free := entry.1 :: list.free
        length := list.length - 1 } other = list.node? other := by
    have different : entry.1 ≠ other := fun same => absent (same ▸ member)
    simp [node?, Array.getElem?_modify, different]
  refine ⟨_, _, by simp only [SampleList.remove, node]; rfl, rfl, ?_⟩
  refine Represents.of_link owns (front.congr fun other member => nodes other (by simp [member]))
    (back.congr fun other member => nodes other (by simp [member])) ?_ ?_
  · exact fun nonempty => represents.head.trans (firstSlot_append_of_ne_nil nonempty _)
  · intro nonempty
    rw [← lastSlot_eq_of_ne_nil nonempty (some entry.1)]
    exact represents.tail.trans (lastSlot_append ..)

/-- Widening changes the width of exactly the entry it names. -/
theorem Represents.setWidth (represents : list.Represents (earlier ++ entry :: later))
    (width : Nat) :
    ∃ changed, list.setWidth entry.1 width = .ok changed ∧
      changed.Represents (earlier ++ (entry.1, { entry.2 with width := width }) :: later) := by
  obtain ⟨front, held, back⟩ := chain_append.mp represents.chain
  have nodup := nodup_slotsOf_middle.mp represents.owns.nodup
  refine ⟨_, by simp only [SampleList.setWidth, represents.node]; rfl, ?_, ?_, ?_, ?_⟩
  · simpa using represents.owns.adjust entry.1 _
  · refine chain_append.mpr ⟨front.congr fun other member => ?_, ?_, back.congr fun other member => ?_⟩
    · exact node?_adjust_of_ne fun same => nodup.1 (by simp [same, member])
    · rw [node?_adjust, held]
      simp
    · exact node?_adjust_of_ne fun same => nodup.1 (by simp [same, member])
  · simpa using represents.head
  · simpa using represents.tail

/-- The entries met on following `next` from a slot, `bound` of them at most. -/
def entriesFrom (list : SampleList) : (bound : Nat) → Option Slot → List Entry
  | bound + 1, some slot =>
    match list.node? slot with
    | some node => (slot, node.toSample) :: list.entriesFrom bound node.next
    | none => []
  | _, _ => []

/-- The entries from head to tail. -/
def entries (list : SampleList) : List Entry :=
  list.entriesFrom list.length list.head

/-- Walking the list meets the same samples whether or not their slots are kept. -/
theorem samples_eq_samplesOf (list : SampleList) : list.samples = samplesOf list.entries := by
  have walk (bound : Nat) (start : Option Slot) :
      (list.follow bound start).map (·.toSample) = samplesOf (list.entriesFrom bound start) := by
    induction bound generalizing start with
    | zero => cases start <;> rfl
    | succ bound recursion =>
      cases start with
      | none => rfl
      | some slot =>
        simp only [follow, entriesFrom]
        cases list.node? slot with
        | none => rfl
        | some node => simp [recursion]
  exact walk list.length list.head

theorem Chain.entriesFrom {before? : Option Slot} {entries : List Entry} {bound : Nat}
    (chain : list.Chain before? entries none) (enough : entries.length ≤ bound) :
    list.entriesFrom bound (firstSlot none entries) = entries := by
  induction entries generalizing before? bound with
  | nil => cases bound <;> rfl
  | cons entry later recursion =>
    obtain ⟨node, rest⟩ := chain
    cases bound with
    | zero => exact absurd enough (Nat.not_succ_le_zero _)
    | succ bound =>
      simp only [firstSlot_cons, SampleList.entriesFrom, node]
      rw [recursion rest (Nat.le_of_succ_le_succ enough)]

theorem Represents.length_eq {entries : List Entry} (represents : list.Represents entries) :
    list.length = entries.length :=
  represents.owns.length.trans (List.length_map _)

/-- The sequence a list represents is the one that a walk from its head meets. -/
theorem Represents.entries_eq {entries : List Entry} (represents : list.Represents entries) :
    list.entries = entries := by
  rw [SampleList.entries, represents.head, represents.length_eq]
  exact represents.chain.entriesFrom (Nat.le_refl _)

theorem Represents.samples_eq {entries : List Entry} (represents : list.Represents entries) :
    list.samples = samplesOf entries := by
  rw [samples_eq_samplesOf, represents.entries_eq]

end Telemetry.Quantile.SampleList
