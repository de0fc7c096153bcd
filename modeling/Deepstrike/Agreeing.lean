import Deepstrike.MemoryJournal
import Mathlib.Data.List.Find

/-!
Where the two journals agree. A directory represents the state that the journal in memory keeps of its operation, and
a program of the file journal, run to its end, answers as the method in memory does. They differ where a lookup has
more than one match, since one searches oldest first and the other newest first, where two operations share a segment,
and where the ordinals run out of digits.
-/
namespace Deepstrike.Journal
open OperationState
open Interleaving Folders Std List StoredOperation InstalledCheckpoint JournalEntry Folder Except

/-- The first position that is not dropped. -/
def StoredOperation.base (state : OperationState) : Nat := state.pruned.elim 0 fun pruned => pruned.through_step_seq+1

/-- What every history in memory keeps, while its ordinals have digits. -/
structure Sound (state : OperationState) : Prop where
  placed : state.records.map step_seq = List.range' state.base state.records.length
  bounded : state.base+state.records.length ≤ MAX_CHAIN_POSITION
  ordinals : state.checkpoints.map ordinal = List.range state.checkpoints.length
  counted : state.checkpoints.length ≤ MAX_CHAIN_POSITION
  covered : ∀ installed ∈ state.checkpoints, installed.through_step_seq < state.base+state.records.length ∧
    ∀ entry ∈ state.records, entry.step_seq = installed.through_step_seq → entry.record_digest = installed.covered_head

theorem Sound.empty : Sound .empty := ⟨rfl,Nat.zero_le _,rfl,Nat.zero_le _,by rintro _ ⟨⟩⟩

section
variable {state : OperationState}

section
variable (sound : Sound state)
include sound

private theorem Sound.find (position : Nat) :
    (state.records.find? fun entry => entry.step_seq = position) = if state.base ≤ position then state.records[position-state.base]? else none := by
  have placed := sound.placed
  generalize state.base = base at placed ⊢
  generalize state.records = records at placed ⊢
  induction records generalizing base with
  | nil => simp
  | cons first rest ih =>
  rw [map_cons,length_cons,range'_succ,cons.injEq] at placed
  obtain ⟨here,later⟩ := placed
  rw [find?_cons,here]
  have behind := ih (base+1) later
  by_cases same : base = position
  · simp [same]
  simp only [same,decide_false,behind]
  by_cases above : base ≤ position
  · have before : base+1 ≤ position := by omega
    have next : position-base = (position-(base+1))+1 := by omega
    rw [if_pos above,if_pos before,next,getElem?_cons_succ]
  · have below : ¬base+1 ≤ position := by omega
    rw [if_neg above,if_neg below]

private theorem Sound.from_position (position : Nat) :
    (state.records.filter fun entry => decide (position ≤ entry.step_seq)) =
      state.records.drop (min (position-state.records.head?.elim 0 step_seq) state.records.length) := by
  rw [← drop_eq_drop_min]
  have placed := sound.placed
  generalize state.base = base at placed
  generalize state.records = records at placed ⊢
  induction records generalizing base with
  | nil => simp
  | cons first rest ih =>
  rw [map_cons,length_cons,range'_succ,cons.injEq] at placed
  obtain ⟨here,later⟩ := placed
  have behind := ih (base+1) later
  rw [head?_cons,Option.elim_some]
  by_cases within : position ≤ first.step_seq
  · have nothing : position-first.step_seq = 0 := by omega
    rw [filter_cons_of_pos (by simpa using within),nothing,drop_zero,behind]
    cases rest with
    | nil => simp
    | cons second more =>
    rw [map_cons,length_cons,range'_succ,cons.injEq] at later
    have none_before : position-second.step_seq = 0 := by omega
    rw [head?_cons,Option.elim_some,none_before,drop_zero]
  have next : position-first.step_seq = (position-(first.step_seq+1))+1 := by omega
  rw [filter_cons_of_neg (by simpa using within),next,drop_succ_cons,behind]
  cases rest with
  | nil => simp
  | cons second more =>
  rw [map_cons,length_cons,range'_succ,cons.injEq] at later
  rw [head?_cons,Option.elim_some,here,later.1]

variable {place : Nat}

theorem Sound.numbered {entry : JournalEntry} (held : state.records[place]? = some entry) :
    entry.step_seq = state.base+place := by
  have listed : (state.records.map step_seq)[place]? = some entry.step_seq := by simp [held]
  rw [sound.placed,List.getElem?_range' (List.getElem?_eq_some_iff.mp held).1] at listed
  simpa using (Option.some.inj listed).symm

theorem Sound.ordinal {installed : InstalledCheckpoint} (held : state.checkpoints[place]? = some installed) :
    installed.ordinal = place := by
  have listed : (state.checkpoints.map InstalledCheckpoint.ordinal)[place]? = some installed.ordinal := by simp [held]
  rw [sound.ordinals,List.getElem?_range (List.getElem?_eq_some_iff.mp held).1] at listed
  exact (Option.some.inj listed).symm

theorem Sound.head : state.head.elim 0 (fun head => head.step_seq+1) = state.base+state.records.length := by
  unfold StoredOperation.head
  cases last : state.records.getLast? with
  | none =>
    rw [getLast?_eq_none_iff.mp last]
    unfold base
    cases state.pruned <;> rfl
  | some entry =>
  have placed := sound.numbered (getLast?_eq_getElem?.symm.trans last)
  have some_held : 0 < state.records.length := length_pos_of_mem (mem_of_getLast? last)
  simp only [Option.elim_some,ChainEntry.step_seq]
  omega

private theorem Sound.last_ordinal :
    state.checkpoints.getLast?.elim 0 (fun latest => latest.ordinal+1) = state.checkpoints.length := by
  cases last : state.checkpoints.getLast? with
  | none => rw [getLast?_eq_none_iff.mp last]; rfl
  | some latest =>
  have placed := sound.ordinal (getLast?_eq_getElem?.symm.trans last)
  have some_held : 0 < state.checkpoints.length := length_pos_of_mem (mem_of_getLast? last)
  simp only [Option.elim_some]
  omega

end

end

theorem listed {α : Type} {folder : Folder α} {names : List Nat} (ordered : names.Pairwise (· < ·))
    (present : ∀ name, name ∈ names ↔ (folder.read name).isSome = true ∧ name < MAX_CHAIN_POSITION) :
    (folder.files.keys.filter fun name => decide (name < MAX_CHAIN_POSITION)).insertionSort (· ≤ ·) = names := by
  have same : (folder.files.keys.filter fun name => decide (name < MAX_CHAIN_POSITION)).Perm names := by
    refine (perm_ext_iff_of_nodup (ExtTreeMap.nodup_keys.filter _) (ordered.imp Nat.ne_of_lt)).mpr fun name => ?_
    rw [mem_filter,ExtTreeMap.mem_keys,present,decide_eq_true_eq]
    simp only [Folder.read,ExtTreeMap.isSome_getElem?_eq_contains,ExtTreeMap.contains_iff_mem]
  exact ((perm_insertionSort _ _).trans same).eq_of_pairwise' (pairwise_insertionSort _ _) (ordered.imp Nat.le_of_lt)

/-- A checkpoint as its file holds it. -/
def persisted_checkpoint (installed : InstalledCheckpoint) : PersistedCheckpoint :=
  ⟨installed.ordinal,installed.checkpoint_id,installed.previous_checkpoint_id,installed.covered_head,installed.through_step_seq,
    installed.state_digest,installed.checkpoint_bytes⟩

/-- What the folders of an operation and the hint say is what is kept in memory. -/
structure Represents (root : Root) (state : OperationState) : Prop where
  records : ∀ position, root.records.read position = state.records.find? fun entry => entry.step_seq = position
  checkpoints : ∀ ordinal, root.checkpoints.read ordinal = state.checkpoints[ordinal]?.map persisted_checkpoint
  acks : ∀ ordinal, (root.acks.read ordinal).isSome = state.checkpoints[ordinal]?.any fun installed => installed.acknowledged
  pruned : root.pruned = state.pruned
  known : ∀ head, root.known_heads 0 = some head → state.head = some head

/-- A program of the file journal against what the journal in memory does. -/
abbrev Answers {α : Type} (program : Journaled α) (state : OperationState) (result : Except JournalError α)
    (after : OperationState) : Prop :=
  Program.Refines Root.execHere Represents program state result after

open FileKernelJournal Program

section
variable {state : OperationState}

private theorem answers_look {op : FileOp} {answer : FileAnswer op} (looked : ∀ root, Represents root state → root.execHere op = some (answer,root)) :
    Answers (fs op) state (.ok answer) state :=
  .ask fun root shown => ⟨root,looked root shown,shown⟩

variable {α : Type} {root : Root} {expected_head : Option String} {record : JournalRecordInput} {error : JournalError}
variable {installed boundary : InstalledCheckpoint}

theorem answers_checked {check result : Except JournalError α} (same : check = result) :
    Answers (ofExcept check) state result state :=
  same ▸ .ofExcept check

private theorem answers_list {place : Place} {names : List Nat} (ordered : names.Pairwise (· < ·))
    (present : ∀ root, Represents root state → ∀ name, name ∈ names ↔ ((root.folder place).read name).isSome = true ∧ name < MAX_CHAIN_POSITION) :
    Answers (list_positions place) state (.ok names) state := by
  intro root shown
  refine ⟨root,?_,shown⟩
  show some (ok _,root) = _
  rw [listed ordered (present root shown)]

theorem Sound.ordered (sound : Sound state) : (state.records.map step_seq).Pairwise (· < ·) :=
  sound.placed ▸ pairwise_lt_range'

theorem Sound.below (sound : Sound state) : ∀ entry ∈ state.records, entry.step_seq < MAX_CHAIN_POSITION := by
  intro entry member
  have position := mem_map_of_mem (f := step_seq) member
  rw [sound.placed,mem_range'_1] at position
  exact Nat.lt_of_lt_of_le position.2 sound.bounded

private theorem record_positions_listed (ordered : (state.records.map step_seq).Pairwise (· < ·))
    (below : ∀ entry ∈ state.records, entry.step_seq < MAX_CHAIN_POSITION) :
    Answers record_positions state (.ok (state.records.map step_seq)) state := by
  refine answers_list ordered fun root shown name => ?_
  show _ ↔ (root.records.read name).isSome = true ∧ _
  rw [shown.records,find?_isSome,mem_map]
  constructor
  · rintro ⟨entry,member,rfl⟩
    exact ⟨⟨entry,member,decide_eq_true rfl⟩,below entry member⟩
  · rintro ⟨⟨entry,member,same⟩,_⟩
    exact ⟨entry,member,of_decide_eq_true same⟩

private theorem record_positions_answers (sound : Sound state) :
    Answers record_positions state (.ok (state.records.map step_seq)) state :=
  record_positions_listed sound.ordered sound.below

theorem read_record_answers (position : Nat) :
    Answers (read_record position) state (.ok (state.records.find? fun entry => entry.step_seq = position)) state := by
  have looked : Answers (fs (.Read .Records position)) state (.ok (state.records.find? fun entry => entry.step_seq = position)) state := by
    refine answers_look fun root shown => ?_
    show some (root.records.read position,root) = _
    rw [shown.records]
  refine .bind looked ?_
  cases found : state.records.find? fun entry => entry.step_seq = position with
  | none => exact .value none
  | some entry =>
  have named := find?_some found
  have same : entry.step_seq = position := of_decide_eq_true named
  simp only [same,ne_eq,not_true_eq_false,if_false]
  exact .value (some entry)

theorem Sound.find_held (sound : Sound state) {entry : JournalEntry} (member : entry ∈ state.records) :
    (state.records.find? fun other => other.step_seq = entry.step_seq) = some entry := by
  obtain ⟨place,held⟩ := mem_iff_getElem?.mp member
  rw [sound.find,sound.numbered held,if_pos (Nat.le_add_right _ _),Nat.add_sub_cancel_left,held]

theorem pruned_anchor_answers : Answers pruned_anchor state (.ok state.pruned) state := by
  intro root shown
  refine ⟨root,?_,shown⟩
  show some (ok root.pruned,root) = _
  rw [shown.pruned]

private theorem anchored_answers :
    Answers anchored state (.ok (state.pruned.map fun pruned => ⟨pruned.through_step_seq,pruned.covered_head⟩)) state :=
  .bind pruned_anchor_answers (.value _)

private theorem scan_head_answers (sound : Sound state) : Answers scan_head state (.ok state.head) state := by
  refine .bind (record_positions_answers sound) ?_
  unfold StoredOperation.head
  rw [getLast?_map]
  cases last : state.records.getLast? with
  | none => exact anchored_answers
  | some entry =>
  refine .bind (read_record_answers entry.step_seq) ?_
  rw [sound.find_held (mem_of_getLast? last)]
  exact .value _

theorem Represents.remember (shown : Represents root state) {head : Option JournalHead}
    (seen : ∀ found, head = some found → state.head = some found) : Represents (root.remember 0 head) state :=
  ⟨shown.records,shown.checkpoints,shown.acks,shown.pruned,fun found known => seen found known⟩

private theorem rescan_answers (sound : Sound state) : Answers rescan state (.ok state.head) state := by
  refine .bind (scan_head_answers sound) ?_
  cases held : state.head with
  | none => exact .value none
  | some head =>
  refine .bind (.ask fun root shown => ⟨root.remember 0 (some head),rfl,shown.remember ?_⟩) (.value _)
  rintro found ⟨⟩
  exact held

/-- The hint is the head, and the slot behind it is free. -/
theorem head_answers (sound : Sound state) : Answers head state (.ok state.head) state := by
  intro root shown
  have asked : (fs .Known).alone Root.execHere root = some (.ok (root.known_heads 0),root) := rfl
  unfold FileKernelJournal.head
  rw [alone_bind,asked]
  dsimp only
  cases known : root.known_heads 0 with
  | none => exact rescan_answers sound root shown
  | some head =>
  have held := shown.known head known
  have ends := sound.head
  rw [held,Option.elim_some] at ends
  have free : root.records.read (head.step_seq+1) = none := by
    rw [shown.records,sound.find]
    split
    · rw [getElem?_eq_none_iff]
      omega
    · rfl
  have probed : (fs (.TryExists .Records (head.step_seq+1))).alone Root.execHere root = some (.ok false,root) := by
    show some (ok (root.records.read (head.step_seq+1)).isSome,root) = _
    rw [free]
    rfl
  refine ⟨root,?_,shown⟩
  dsimp only
  rw [alone_bind,probed,held]
  rfl

theorem Sound.next (sound : Sound state)
    (checked : check_append_precondition state.head expected_head record = .ok ()) :
    record.step_seq = state.base+state.records.length := by
  have ends := sound.head
  unfold check_append_precondition at checked
  split at checked
  · cases checked
  next none_held =>
    rw [none_held] at ends
    split at checked
    · cases checked
    next genesis => exact (not_not.mp genesis).trans ends
  · cases checked
  next expected head _ held =>
  rw [held] at ends
  split at checked
  · cases checked
  split at checked
  · cases checked
  next follows => exact (not_not.mp follows).trans ends

/-- An append keeps the journals' state sound. -/
theorem Sound.append (sound : Sound state)
    (valid : validate_record record = .ok ()) (next : record.step_seq = state.base+state.records.length) :
    Sound (state.push expected_head record) := by
  refine ⟨?_,?_,sound.ordinals,sound.counted,fun installed member => ?_⟩
  · show (state.records ++ [_]).map step_seq = range' state.base (state.records ++ [_]).length
    rw [map_append,sound.placed,length_append,length_singleton,range'_concat]
    simp [next]
  · unfold validate_record at valid
    split at valid
    · cases valid
    next within =>
    show state.base+(state.records ++ [_]).length ≤ MAX_CHAIN_POSITION
    rw [length_append,length_singleton]
    omega
  obtain ⟨before,same⟩ := sound.covered installed member
  refine ⟨?_,fun entry among through => ?_⟩
  · show _ < state.base+(state.records ++ [_]).length
    rw [length_append]
    omega
  obtain older | newest := mem_append.mp among
  · exact same entry older through
  · rw [mem_singleton.mp newest] at through
    have through : record.step_seq = installed.through_step_seq := through
    omega

/-- A claimed record is in its slot and the head from then on. -/
theorem Represents.append (shown : Represents root state) (sound : Sound state) (expected_head : Option String)
    (next : record.step_seq = state.base+state.records.length) :
    ∃ folder, root.records.link 0 record.step_seq (persisted expected_head record) = (true,folder) ∧
      Represents (({ root with records := folder } : Root).remember 0 (some ⟨record.step_seq,record.record_digest⟩))
        (state.push expected_head record) := by
  have free : root.records.read record.step_seq = none := by
    rw [shown.records,sound.find]
    split
    · rw [getElem?_eq_none_iff]
      omega
    · rfl
  have claimed : (root.records.link 0 record.step_seq (persisted expected_head record)).1 = true := by
    unfold link
    rw [if_neg (read_eq_none.mp free)]
  rcases linked : root.records.link 0 record.step_seq (persisted expected_head record) with ⟨granted,folder⟩
  rw [linked] at claimed
  have claimed : granted = true := claimed
  subst claimed
  obtain ⟨_,_,reads⟩ := link_free linked
  refine ⟨folder,rfl,⟨fun position => ?_,shown.checkpoints,shown.acks,shown.pruned,fun head known => ?_⟩⟩
  · show folder.read position = (state.records ++ [persisted expected_head record]).find? _
    rw [reads,find?_append,← shown.records]
    split
    next same =>
      subst same
      rw [free]
      simp [persisted]
    next apart =>
    have other : ¬(persisted expected_head record).step_seq = position := apart
    simp [other]
  cases known
  show head (state.push expected_head record) = _
  unfold StoredOperation.head push
  rw [getLast?_concat]
  rfl

/-- Both journals answer an append alike. -/
theorem append_answers (sound : Sound state) (expected_head : Option String) (record : JournalRecordInput)
    (valid : validate_record record = .ok ())
    (checked : check_append_precondition state.head expected_head record = .ok ()) :
    Answers (compare_and_append expected_head record) state (.ok ⟨record.step_seq,record.record_digest⟩)
    (state.push expected_head record) := by
  refine .bind (answers_checked valid) (.bind (head_answers sound) (.bind (answers_checked checked) ?_))
  intro root shown
  obtain ⟨folder,linked,kept⟩ := shown.append sound expected_head (sound.next checked)
  have claimed : (fs (.HardLink .Records record.step_seq (persisted expected_head record))).alone Root.execHere root =
      some (.ok true,{ root with records := folder }) := by
    show some (ok (root.records.link 0 record.step_seq (persisted expected_head record)).1,
      { root with records := (root.records.link 0 record.step_seq (persisted expected_head record)).2 }) = _
    rw [linked]
  refine ⟨_,?_,kept⟩
  unfold publish_record
  rw [alone_bind,claimed]
  rfl

theorem append_refused (sound : Sound state) (expected_head : Option String) (record : JournalRecordInput)
    (valid : validate_record record = .ok ())
    (checked : check_append_precondition state.head expected_head record = .error error) :
    Answers (compare_and_append expected_head record) state (.error error) state :=
  .bind (answers_checked valid) (.bind (head_answers sound) (.bind_error (answers_checked checked)))

theorem append_invalid (expected_head : Option String) (record : JournalRecordInput)
    (invalid : validate_record record = .error error) :
    Answers (compare_and_append expected_head record) state (.error error) state :=
  .bind_error (answers_checked invalid)

private theorem read_listed_answers (sound : Sound state) (from_step_seq : Nat) (entries : List JournalEntry)
    (among : ∀ entry ∈ entries, entry ∈ state.records) :
    Answers (read_listed from_step_seq (entries.map step_seq)) state
      (.ok (entries.filter fun entry => decide (from_step_seq ≤ entry.step_seq))) state := by
  induction entries with
  | nil => exact .value []
  | cons entry rest ih =>
  have behind := ih fun other member => among other (mem_cons_of_mem entry member)
  rw [map_cons,read_listed]
  by_cases below : entry.step_seq < from_step_seq
  · rw [if_pos below,filter_cons_of_neg (by simpa using below)]
    exact behind
  · rw [if_neg below,filter_cons_of_pos (by simpa using below)]
    refine .bind (read_record_answers entry.step_seq) ?_
    rw [sound.find_held (among entry mem_cons_self)]
    exact .bind behind (.value _)

/-- Both journals answer a read alike. -/
theorem read_from_answers (sound : Sound state) (from_step_seq : Nat) :
    Answers (read_from from_step_seq) state (state.read_from from_step_seq) state := by
  refine .bind (record_positions_answers sound) (.bind (read_listed_answers sound from_step_seq state.records fun _ member => member) ?_)
  rw [sound.from_position]
  unfold StoredOperation.read_from
  dsimp only
  generalize state.records.drop _ = entries
  cases verify_chain entries with
  | error error => exact .bind_error (.failure error)
  | ok linked => exact .bind (.value linked) (.value entries)

private theorem after_anchor_answers (sound : Sound state) {after_head : String}
    (missing : (state.records.find? fun entry => entry.record_digest = after_head) = none) :
    Answers (after_anchor after_head state.pruned) state (state.records_after after_head) state := by
  unfold StoredOperation.records_after
  simp only [ChainEntry.record_digest,missing]
  cases state.pruned with
  | none => exact .failure _
  | some pruned =>
  unfold after_anchor
  by_cases named : pruned.covered_head = after_head
  · simp only [named,if_true,Option.filter_some,decide_true]
    exact read_from_answers sound _
  · simp only [named,if_false,Option.filter_some,decide_false]
    exact .failure _

private theorem find_reverse {matches_ : α → Bool} (entries : List α) (once : entries.countP matches_ ≤ 1) :
    entries.reverse.find? matches_ = entries.find? matches_ := by
  refine find?_eq_find?_of_perm (reverse_perm entries) ?_
  rintro left ⟨left_listed,left_named⟩ right ⟨right_listed,right_named⟩
  have left_kept := mem_filter.mpr ⟨mem_reverse.mp left_listed,left_named⟩
  have right_kept := mem_filter.mpr ⟨mem_reverse.mp right_listed,right_named⟩
  rw [countP_eq_length_filter] at once
  cases kept : entries.filter matches_ with
  | nil => simp [kept] at left_kept
  | cons only rest =>
  rw [kept,length_cons] at once
  rw [kept,eq_nil_of_length_eq_zero (by omega : rest.length = 0),mem_singleton] at left_kept right_kept
  rw [left_kept,right_kept]

private theorem after_listed_answers (sound : Sound state) (after_head : String) (entries : List JournalEntry)
    (among : ∀ entry ∈ entries, entry ∈ state.records)
    (agree : (entries.find? fun entry => entry.record_digest = after_head) = state.records.find? fun entry => entry.record_digest = after_head) :
    Answers (after_listed after_head (entries.map step_seq)) state (state.records_after after_head) state := by
  induction entries with
  | nil => exact .bind pruned_anchor_answers (after_anchor_answers sound agree.symm)
  | cons entry rest ih =>
  refine .bind (read_record_answers entry.step_seq) ?_
  rw [sound.find_held (among entry mem_cons_self)]
  rw [find?_cons] at agree
  by_cases named : entry.record_digest = after_head
  · simp only [named,decide_true] at agree
    simp only [named,if_true,StoredOperation.records_after,ChainEntry.record_digest,← agree]
    exact read_from_answers sound _
  · simp only [named,decide_false] at agree
    simp only [named,if_false]
    exact ih (fun other member => among other (mem_cons_of_mem entry member)) agree

theorem records_after_answers (sound : Sound state) (after_head : String)
    (once : (state.records.countP fun entry => entry.record_digest = after_head) ≤ 1) :
    Answers (records_after (some after_head)) state (state.records_after after_head) state := by
  refine .bind (record_positions_answers sound) ?_
  rw [← map_reverse]
  exact after_listed_answers sound after_head _ (fun _ member => mem_reverse.mp member) (find_reverse _ once)

/-! The checkpoints and their marks. -/

theorem checkpoint_ordinals_answers (sound : Sound state) :
    Answers checkpoint_ordinals state (.ok (state.checkpoints.map ordinal)) state := by
  rw [sound.ordinals]
  refine answers_list pairwise_lt_range fun root shown name => ?_
  have counted := sound.counted
  show _ ↔ (root.checkpoints.read name).isSome = true ∧ _
  rw [shown.checkpoints,Option.isSome_map,mem_range,Option.isSome_iff_ne_none,ne_eq,getElem?_eq_none_iff]
  omega

def acked (state : OperationState) : List Nat :=
  (state.checkpoints.filter fun installed => installed.acknowledged).map ordinal

private theorem acked_contains (sound : Sound state) (ordinal : Nat) :
    (acked state).contains ordinal = state.checkpoints[ordinal]?.any fun installed => installed.acknowledged := by
  rw [Bool.eq_iff_iff,contains_iff_mem,acked,mem_map,Option.any_eq_true]
  constructor
  · rintro ⟨installed,member,rfl⟩
    obtain ⟨place,held⟩ := mem_iff_getElem?.mp (mem_filter.mp member).1
    rw [sound.ordinal held]
    exact ⟨installed,held,(mem_filter.mp member).2⟩
  · rintro ⟨installed,held,marked⟩
    exact ⟨installed,mem_filter.mpr ⟨mem_of_getElem? held,marked⟩,sound.ordinal held⟩

private theorem acked_ordinals_answers (sound : Sound state) : Answers acked_ordinals state (.ok (acked state)) state := by
  refine answers_list ?_ fun root shown name => ?_
  · have ordered : (state.checkpoints.map ordinal).Pairwise (· < ·) := sound.ordinals ▸ pairwise_lt_range
    exact ordered.sublist (filter_sublist.map _)
  have counted := sound.counted
  show _ ↔ (root.acks.read name).isSome = true ∧ _
  rw [shown.acks,← acked_contains sound,contains_iff_mem]
  refine ⟨fun member => ⟨member,?_⟩,And.left⟩
  have held : name ∈ state.checkpoints.map ordinal := (filter_sublist.map _).subset member
  rw [sound.ordinals,mem_range] at held
  omega

private theorem read_checkpoint_answers (sound : Sound state) (ordinal : Nat) (listed : Option (List Nat))
    (same : ∀ known ∈ listed, known = acked state) :
    Answers (read_checkpoint ordinal listed) state (.ok state.checkpoints[ordinal]?) state := by
  have looked : Answers (fs (.Read .Checkpoints ordinal)) state (.ok (state.checkpoints[ordinal]?.map persisted_checkpoint)) state := by
    refine answers_look fun root shown => ?_
    show some (root.checkpoints.read ordinal,root) = _
    rw [shown.checkpoints]
  refine .bind looked ?_
  cases held : state.checkpoints[ordinal]? with
  | none => exact .value none
  | some installed =>
  have marks : Answers (acked_or_listed listed) state (.ok (acked state)) state := by
    cases listed with
    | none => exact acked_ordinals_answers sound
    | some known =>
    rw [same known rfl]
    exact .value _
  refine .bind marks ?_
  rw [acked_contains sound,held]
  exact .value (some installed)

/-- Both journals name the same latest checkpoint. -/
theorem latest_checkpoint_answers (sound : Sound state) :
    Answers latest_checkpoint state (.ok state.checkpoints.getLast?) state := by
  refine .bind (checkpoint_ordinals_answers sound) ?_
  rw [getLast?_map]
  cases last : state.checkpoints.getLast? with
  | none => exact .value none
  | some latest =>
  have held : state.checkpoints[state.checkpoints.length-1]? = some latest := getLast?_eq_getElem?.symm.trans last
  have read := read_checkpoint_answers sound latest.ordinal none (by rintro _ ⟨⟩)
  rw [sound.ordinal held,held] at read
  rw [Option.map_some,sound.ordinal held]
  exact read

/-- An install that passes its checks covers a position of the chain. -/
theorem Sound.install (sound : Sound state) (previous_checkpoint_id : Option String) {covered_head : String}
    {checkpoint : CheckpointCandidate}
    (room : state.checkpoints.length < MAX_CHAIN_POSITION)
    (verified : verify_covered_head (state.records.find? fun entry => entry.step_seq = checkpoint.through_step_seq)
    state.pruned covered_head
      checkpoint.through_step_seq = .ok ()) :
    Sound { state with checkpoints :=
      state.checkpoints ++ [state.next_checkpoint previous_checkpoint_id covered_head checkpoint] } := by
  refine ⟨sound.placed,sound.bounded,?_,?_,fun installed member => ?_⟩
  · rw [map_append,sound.ordinals,length_append,length_singleton,range_succ]
    exact congrArg (fun ordinal => range state.checkpoints.length ++ [ordinal]) sound.last_ordinal
  · rw [length_append,length_singleton]
    exact room
  obtain older | newest := mem_append.mp member
  · exact sound.covered installed older
  rw [mem_singleton.mp newest]
  unfold verify_covered_head at verified
  split at verified
  next entry found =>
    split at verified
    · cases verified
    next same =>
    have named := find?_some found
    have placed : entry.step_seq = checkpoint.through_step_seq := of_decide_eq_true named
    obtain ⟨place,held⟩ := mem_iff_getElem?.mp (mem_of_find?_eq_some found)
    have bound := (List.getElem?_eq_some_iff.mp held).1
    have numbered := sound.numbered held
    refine ⟨?_,fun other among through => ?_⟩
    · show checkpoint.through_step_seq < state.base+state.records.length
      omega
    · have through : other.step_seq = checkpoint.through_step_seq := through
      have one := sound.find_held among
      rw [through,found] at one
      exact Option.some.inj one ▸ not_not.mp same
  next missing =>
  split at verified
  next anchored =>
    have first : state.base = checkpoint.through_step_seq+1 := by rw [base,anchored]; rfl
    refine ⟨?_,fun other among through => ?_⟩
    · show checkpoint.through_step_seq < state.base+state.records.length
      omega
    · have absent := find?_eq_none.mp missing other among
      exact absurd (decide_eq_true through) absent
  · cases verified

/-- The claimed ordinal is the next one. -/
theorem Represents.install (shown : Represents root state) (previous_checkpoint_id : Option String)
    (covered_head : String) (checkpoint : CheckpointCandidate) :
    ∃ folder, root.checkpoints.link 0 state.checkpoints.length
        (persisted_checkpoint (state.next_checkpoint previous_checkpoint_id covered_head checkpoint)) = (true,folder) ∧
      Represents { root with checkpoints := folder }
        { state with checkpoints :=
        state.checkpoints ++ [state.next_checkpoint previous_checkpoint_id covered_head checkpoint] } := by
  have free : root.checkpoints.read state.checkpoints.length = none := by rw [shown.checkpoints,getElem?_eq_none (Nat.le_refl _)]; rfl
  have claimed : (root.checkpoints.link 0 state.checkpoints.length
      (persisted_checkpoint (state.next_checkpoint previous_checkpoint_id covered_head checkpoint))).1 = true := by
    unfold link
    rw [if_neg (read_eq_none.mp free)]
  rcases linked : root.checkpoints.link 0 state.checkpoints.length
    (persisted_checkpoint (state.next_checkpoint previous_checkpoint_id covered_head checkpoint)) with ⟨granted,folder⟩
  rw [linked] at claimed
  have claimed : granted = true := claimed
  subst claimed
  obtain ⟨_,_,reads⟩ := link_free linked
  refine ⟨folder,rfl,⟨shown.records,fun ordinal => ?_,fun ordinal => ?_,shown.pruned,shown.known⟩⟩
  · show folder.read ordinal = (state.checkpoints ++ [_])[ordinal]?.map persisted_checkpoint
    rw [reads]
    split
    next same =>
      subst same
      rw [getElem?_concat_length]
      rfl
    next apart =>
    rw [shown.checkpoints]
    obtain before | behind := Nat.lt_or_ge ordinal state.checkpoints.length
    · rw [getElem?_append_left before]
    · rw [getElem?_eq_none behind,getElem?_eq_none]
      rw [length_append,length_singleton]
      omega
  show (root.acks.read ordinal).isSome = (state.checkpoints ++ [_])[ordinal]?.any fun installed => installed.acknowledged
  rw [shown.acks]
  obtain before | behind := Nat.lt_or_ge ordinal state.checkpoints.length
  · rw [getElem?_append_left before]
  · rw [getElem?_eq_none behind,getElem?_append_right behind,getElem?_singleton]
    split <;> rfl

section
variable (previous_checkpoint_id : Option String) (covered_head : String) (checkpoint : CheckpointCandidate)

/-- Both journals answer an installation alike. -/
theorem install_answers (sound : Sound state) (valid : validate_candidate checkpoint = .ok ())
    (checked : check_checkpoint_precondition state.checkpoints.getLast? previous_checkpoint_id checkpoint = .ok ()) :
    match verify_covered_head (state.records.find? fun entry => entry.step_seq = checkpoint.through_step_seq)
      state.pruned covered_head
      checkpoint.through_step_seq with
    | .error error => Answers (compare_and_install_checkpoint previous_checkpoint_id covered_head checkpoint) state (.error error) state
    | .ok () => Answers (compare_and_install_checkpoint previous_checkpoint_id covered_head checkpoint) state
        (.ok (state.next_checkpoint previous_checkpoint_id covered_head checkpoint))
        { state with checkpoints := state.checkpoints ++ [state.next_checkpoint previous_checkpoint_id covered_head checkpoint] } := by
  split
  next error failed =>
    exact .bind (answers_checked valid) (.bind (latest_checkpoint_answers sound) (.bind (answers_checked checked)
      (.bind (read_record_answers _) (.bind pruned_anchor_answers (.bind_error (answers_checked failed))))))
  next verified =>
  refine .bind (answers_checked valid) (.bind (latest_checkpoint_answers sound) (.bind (answers_checked checked)
    (.bind (read_record_answers _) (.bind pruned_anchor_answers (.bind (answers_checked verified) ?_)))))
  intro root shown
  obtain ⟨folder,linked,kept⟩ := shown.install previous_checkpoint_id covered_head checkpoint
  have claimed : (fs (.HardLink .Checkpoints state.checkpoints.length
      (persisted_checkpoint (state.next_checkpoint previous_checkpoint_id covered_head checkpoint)))).alone Root.execHere root =
      some (.ok true,{ root with checkpoints := folder }) := by
    show some (ok (root.checkpoints.link 0 _ _).1,{ root with checkpoints := (root.checkpoints.link 0 _ _).2 }) = _
    rw [linked]
  refine ⟨_,?_,kept⟩
  have placed := sound.last_ordinal
  unfold next_checkpoint persisted_checkpoint at claimed
  unfold publish_checkpoint next_checkpoint
  rw [placed] at claimed ⊢
  rw [alone_bind,claimed]
  rfl

variable {error : JournalError}

theorem install_refused (sound : Sound state) (valid : validate_candidate checkpoint = .ok ())
    (checked : check_checkpoint_precondition state.checkpoints.getLast? previous_checkpoint_id checkpoint =
    .error error) :
    Answers (compare_and_install_checkpoint previous_checkpoint_id covered_head checkpoint) state (.error error)
    state :=
  .bind (answers_checked valid) (.bind (latest_checkpoint_answers sound) (.bind_error (answers_checked checked)))

theorem install_invalid (invalid : validate_candidate checkpoint = .error error) :
    Answers (compare_and_install_checkpoint previous_checkpoint_id covered_head checkpoint) state (.error error)
    state :=
  .bind_error (answers_checked invalid)

end

/-- The state in which a checkpoint is acknowledged. -/
def mark (state : OperationState) (installed : InstalledCheckpoint) : OperationState :=
  { state with checkpoints := state.checkpoints.set installed.ordinal { installed with acknowledged := true } }

theorem Sound.held (sound : Sound state) (member : installed ∈ state.checkpoints) :
    state.checkpoints[installed.ordinal]? = some installed := by
  obtain ⟨place,held⟩ := mem_iff_getElem?.mp member
  rw [sound.ordinal held,held]

private theorem mark_marked (sound : Sound state) (member : installed ∈ state.checkpoints)
    (acknowledged : installed.acknowledged = true) : mark state installed = state := by
  have same : { installed with acknowledged := true } = installed := by rw [← acknowledged]
  have whole : state.checkpoints.set installed.ordinal installed = state.checkpoints := by
    refine ext_getElem? fun place => ?_
    rw [getElem?_set]
    split
    next here =>
      subst here
      rw [if_pos (List.getElem?_eq_some_iff.mp (sound.held member)).1,sound.held member]
    next => rfl
  rw [mark,same,whole]

theorem Sound.mark (sound : Sound state) (member : installed ∈ state.checkpoints) :
    Sound (mark state installed) := by
  refine ⟨sound.placed,sound.bounded,?_,?_,fun other among => ?_⟩
  · have same : ((state.checkpoints.set installed.ordinal { installed with acknowledged := true }).map InstalledCheckpoint.ordinal) =
        state.checkpoints.map InstalledCheckpoint.ordinal := by
      refine ext_getElem? fun place => ?_
      rw [getElem?_map,getElem?_map,getElem?_set]
      split
      next here =>
        subst here
        rw [if_pos (List.getElem?_eq_some_iff.mp (sound.held member)).1,sound.held member]
        rfl
      next => rfl
    show _ = range (state.checkpoints.set _ _).length
    rw [length_set,← sound.ordinals]
    exact same
  · show (state.checkpoints.set _ _).length ≤ MAX_CHAIN_POSITION
    rw [length_set]
    exact sound.counted
  · obtain older | rfl := mem_or_eq_of_mem_set among
    · exact sound.covered other older
    · exact sound.covered installed member

theorem Represents.mark (shown : Represents root state) (sound : Sound state)
    (member : installed ∈ state.checkpoints) (unmarked : installed.acknowledged = false) (content : AckMark) :
    ∃ folder, root.acks.link 0 installed.ordinal content = (true,folder) ∧ Represents { root with acks := folder }
    (mark state installed) := by
  have held := sound.held member
  have bound := (List.getElem?_eq_some_iff.mp held).1
  have free : root.acks.read installed.ordinal = none := by
    have absent := shown.acks installed.ordinal
    rw [held,Option.any_some,unmarked] at absent
    exact Option.isNone_iff_eq_none.mp (by simpa using absent)
  have claimed : (root.acks.link 0 installed.ordinal content).1 = true := by
    unfold link
    rw [if_neg (read_eq_none.mp free)]
  rcases linked : root.acks.link 0 installed.ordinal content with ⟨granted,folder⟩
  rw [linked] at claimed
  have claimed : granted = true := claimed
  subst claimed
  obtain ⟨_,_,reads⟩ := link_free linked
  refine ⟨folder,rfl,⟨shown.records,fun ordinal => ?_,fun ordinal => ?_,shown.pruned,shown.known⟩⟩
  · show root.checkpoints.read ordinal = (state.checkpoints.set _ _)[ordinal]?.map persisted_checkpoint
    rw [shown.checkpoints,List.getElem?_set]
    split
    next here =>
      subst here
      rw [held]
      rfl
    next => rfl
  show (folder.read ordinal).isSome = (state.checkpoints.set _ _)[ordinal]?.any fun installed => installed.acknowledged
  rw [reads,List.getElem?_set]
  split
  · rfl
  · exact shown.acks ordinal

private theorem acknowledge_eq (checkpoint_id : String) (checkpoints : List InstalledCheckpoint) (first : Nat)
    (numbered : checkpoints.map ordinal = List.range' first checkpoints.length) :
    acknowledge checkpoint_id checkpoints = (checkpoints.find? fun installed => installed.checkpoint_id = checkpoint_id).map
      fun found => ({ found with acknowledged := true },checkpoints.set (found.ordinal-first) { found with acknowledged := true }) := by
  induction checkpoints generalizing first with
  | nil => rfl
  | cons installed rest ih =>
  rw [map_cons,length_cons,range'_succ,cons.injEq] at numbered
  obtain ⟨here,later⟩ := numbered
  rw [find?_cons,acknowledge]
  by_cases named : installed.checkpoint_id = checkpoint_id
  · simp [named,here]
  simp only [named,if_false,decide_false]
  rw [ih (first+1) later]
  cases found : rest.find? fun installed => installed.checkpoint_id = checkpoint_id with
  | none => rfl
  | some other =>
  have behind : first+1 ≤ other.ordinal := by
    have listed := mem_map_of_mem (f := ordinal) (mem_of_find?_eq_some found)
    rw [later] at listed
    exact (mem_range'_1.mp listed).1
  have next : other.ordinal-first = (other.ordinal-(first+1))+1 := by omega
  simp only [Option.map_some,next,set_cons_succ]

/-- On files the newest of them is, where the entries are those still to look at. -/
theorem ack_listed_answers (sound : Sound state) (checkpoint_id : String) (entries : List InstalledCheckpoint)
    (among : ∀ installed ∈ entries, installed ∈ state.checkpoints) :
    match entries.find? fun installed => installed.checkpoint_id = checkpoint_id with
    | none => Answers (ack_listed checkpoint_id (entries.map ordinal)) state
        (.error (.Integrity "cannot acknowledge an uninstalled checkpoint")) state
    | some found => Answers (ack_listed checkpoint_id (entries.map ordinal)) state
        (.ok { found with acknowledged := true }) (mark state found) := by
  induction entries with
  | nil => exact .failure _
  | cons installed rest ih =>
  have member := among installed mem_cons_self
  have behind := ih fun other listed => among other (mem_cons_of_mem installed listed)
  have read := read_checkpoint_answers sound installed.ordinal none (by rintro _ ⟨⟩)
  rw [sound.held member] at read
  rw [find?_cons,map_cons,ack_listed]
  by_cases named : installed.checkpoint_id = checkpoint_id
  · simp only [named,decide_true]
    refine .bind read ?_
    simp only [named,ne_eq,not_true_eq_false,if_false]
    cases marked : installed.acknowledged with
    | true =>
      rw [mark_marked sound member marked]
      exact .value _
    | false =>
    simp only [Bool.false_eq_true,if_false]
    intro root shown
    obtain ⟨folder,linked,kept⟩ := shown.mark sound member marked (AckMark.mk installed.ordinal checkpoint_id)
    have claimed : (fs (.HardLink .Acks installed.ordinal (AckMark.mk installed.ordinal checkpoint_id))).alone Root.execHere root =
        some (.ok true,{ root with acks := folder }) := by
      show some (ok (root.acks.link 0 _ _).1,{ root with acks := (root.acks.link 0 _ _).2 }) = _
      rw [linked]
    refine ⟨_,?_,kept⟩
    rw [alone_bind,claimed]
    rfl
  simp only [named,decide_false]
  cases found : rest.find? fun installed => installed.checkpoint_id = checkpoint_id with
  | none =>
    rw [found] at behind
    refine .bind read ?_
    simp only [named,ne_eq,not_false_eq_true,if_true]
    exact behind
  | some other =>
  rw [found] at behind
  refine .bind read ?_
  simp only [named,ne_eq,not_false_eq_true,if_true]
  exact behind

/-- With one checkpoint at most that has the id, the first is the newest. -/
theorem ack_answers (sound : Sound state) (checkpoint_id : String)
    (once : (state.checkpoints.countP fun installed => installed.checkpoint_id = checkpoint_id) ≤ 1) :
    match acknowledge checkpoint_id state.checkpoints with
    | none => Answers (ack_checkpoint checkpoint_id) state (.error (.Integrity "cannot acknowledge an uninstalled checkpoint")) state
    | some (found,checkpoints) => Answers (ack_checkpoint checkpoint_id) state (.ok found) { state with checkpoints } ∧
        Sound { state with checkpoints } := by
  have searched := ack_listed_answers sound checkpoint_id state.checkpoints.reverse fun _ member => mem_reverse.mp member
  rw [find_reverse _ once,map_reverse] at searched
  rw [acknowledge_eq checkpoint_id state.checkpoints 0 (sound.ordinals.trans range_eq_range')]
  cases found : state.checkpoints.find? fun installed => installed.checkpoint_id = checkpoint_id with
  | none =>
    rw [found] at searched
    exact .bind (checkpoint_ordinals_answers sound) searched
  | some installed =>
  rw [found] at searched
  exact ⟨.bind (checkpoint_ordinals_answers sound) searched,sound.mark (mem_of_find?_eq_some found)⟩

/-! Retention. -/

private theorem prune_boundary_answers (sound : Sound state) :
    Answers (prune_boundary (acked state) (state.checkpoints.map ordinal)) state
      (.ok (state.checkpoints.reverse.find? fun installed => installed.acknowledged)) state := by
  have marks : ((state.checkpoints.map ordinal).reverse.find? (acked state).contains) =
      (state.checkpoints.reverse.find? fun installed => installed.acknowledged).map ordinal := by
    rw [← map_reverse,find?_map]
    congr 1
    refine find?_congr fun installed member => ?_
    have held := sound.held (mem_reverse.mp member)
    rw [Function.comp_apply,acked_contains sound,held,Option.any_some]
  unfold prune_boundary
  rw [marks]
  cases found : state.checkpoints.reverse.find? fun installed => installed.acknowledged with
  | none => exact .value none
  | some boundary =>
  have read := read_checkpoint_answers sound boundary.ordinal (some (acked state)) (by rintro known ⟨⟩; rfl)
  rw [sound.held (mem_reverse.mp (mem_of_find?_eq_some found))] at read
  exact read

private theorem range_above (position base count : Nat) : ((List.range' base count).filter fun place => decide (position < place)) =
    List.range' (max base (position+1)) (base+count-max base (position+1)) := by
  induction count generalizing base with
  | zero =>
    have nothing : base+0-max base (position+1) = 0 := by omega
    rw [nothing]
    rfl
  | succ count ih =>
  rw [range'_succ]
  by_cases above : position < base
  · have here : max base (position+1) = base := by omega
    have later : max (base+1) (position+1) = base+1 := by omega
    have rest : base+(count+1)-base = count+1 := by omega
    have fewer : base+1+count-(base+1) = count := by omega
    rw [filter_cons_of_pos (by simpa using above),ih,here,later,rest,fewer,range'_succ]
  · have same : max base (position+1) = max (base+1) (position+1) := by omega
    have ends : base+(count+1) = base+1+count := by omega
    rw [filter_cons_of_neg (by simpa using above),ih,same,ends]

/-- A prune up to an installed checkpoint keeps the state sound. -/
theorem Sound.prune (sound : Sound state) (member : boundary ∈ state.checkpoints) :
    Sound (state.prune boundary) := by
  obtain ⟨within,_⟩ := sound.covered boundary member
  have positions : (state.prune boundary).records.map step_seq =
      range' (max state.base (boundary.through_step_seq+1)) (state.base+state.records.length-max state.base (boundary.through_step_seq+1)) := by
    rw [← range_above,← sound.placed,filter_map]
    rfl
  have first : (state.prune boundary).base = max state.base (boundary.through_step_seq+1) := by
    unfold StoredOperation.base StoredOperation.prune
    cases state.pruned with
    | none => simp
    | some anchor =>
    simp only [Option.all_some,decide_eq_true_eq]
    split <;> simp only [Option.elim_some] <;> omega
  have kept : (state.prune boundary).records.length = state.base+state.records.length-max state.base (boundary.through_step_seq+1) := by
    rw [← length_map (f := step_seq),positions,length_range']
  have ends : (state.prune boundary).base+(state.prune boundary).records.length = state.base+state.records.length := by omega
  refine ⟨?_,ends ▸ sound.bounded,sound.ordinals,sound.counted,fun installed listed => ?_⟩
  · rw [first,kept]
    exact positions
  · obtain ⟨through,same⟩ := sound.covered installed listed
    exact ⟨ends ▸ through,fun entry among => same entry (mem_of_mem_filter among)⟩

/-- The files of the covered records are removed one at a time; the head stays. -/
theorem remove_records_answers (through_step_seq : Nat) (entries : List JournalEntry)
    (ordered : entries.Pairwise fun first second => first.step_seq < second.step_seq)
    (ends : ∀ last ∈ entries.getLast?, last.step_seq ≤ through_step_seq →
    state.pruned = some ⟨last.step_seq,last.record_digest⟩) (count : Nat) :
    Answers (remove_records through_step_seq (entries.map step_seq) count) { state with records := entries }
      (.ok (count+(entries.length-(entries.filter fun entry => decide (through_step_seq < entry.step_seq)).length)))
      { state with records := entries.filter fun entry => decide (through_step_seq < entry.step_seq) } := by
  induction entries generalizing count with
  | nil => exact .value count
  | cons first rest ih =>
  obtain ⟨before,ordered⟩ := pairwise_cons.mp ordered
  rw [map_cons,remove_records]
  by_cases above : through_step_seq < first.step_seq
  · have all_above : (first :: rest).filter (fun entry => decide (through_step_seq < entry.step_seq)) = first :: rest := by
      refine filter_eq_self.mpr fun entry member => decide_eq_true ?_
      obtain rfl | later := mem_cons.mp member
      · exact above
      · exact Nat.lt_trans above (before entry later)
    rw [if_pos above,all_above,Nat.sub_self]
    exact .value count
  have removed : Answers (fs (.RemoveRecord first.step_seq)) { state with records := first :: rest } (.ok ()) { state with records := rest } := by
    refine .ask fun root shown => ⟨{ root with records := root.records.unlink first.step_seq },rfl,
      ⟨fun position => ?_,shown.checkpoints,shown.acks,shown.pruned,fun head known => ?_⟩⟩
    · show (root.records.unlink first.step_seq).read position = rest.find? _
      rw [read_unlink,shown.records,find?_cons]
      by_cases same : first.step_seq = position
      · rw [if_pos same]
        refine (find?_eq_none.mpr fun entry member => ?_).symm
        have later := before entry member
        simp only [decide_eq_true_eq]
        omega
      · simp [same]
    have held := shown.known head known
    unfold StoredOperation.head at held ⊢
    cases rest with
    | nil =>
      have anchor := ends first rfl (by omega)
      simp only [getLast?_singleton] at held
      simp only [getLast?_nil,anchor,Option.map_some]
      exact held
    | cons second more => exact held
  have later : ∀ last ∈ rest.getLast?, last.step_seq ≤ through_step_seq → state.pruned = some ⟨last.step_seq,last.record_digest⟩ := by
    intro last final
    cases rest with
    | nil => cases final
    | cons second more => exact ends last final
  have behind := ih ordered later (count+1)
  have fewer := length_filter_le (fun entry : JournalEntry => decide (through_step_seq < entry.step_seq)) rest
  have counted : count+1+(rest.length-(rest.filter fun entry => decide (through_step_seq < entry.step_seq)).length) =
      count+((first :: rest).length-(rest.filter fun entry => decide (through_step_seq < entry.step_seq)).length) := by
    rw [length_cons]
    omega
  rw [if_neg above,filter_cons_of_neg (by simpa using above),← counted]
  exact .bind removed behind

/-- The anchor moves forward only, and never past the head. -/
theorem advance_anchor_answers (sound : Sound state) (member : boundary ∈ state.checkpoints) :
    Answers (advance_anchor state.pruned boundary) state (.ok ())
    { state with pruned := (state.prune boundary).pruned } := by
  unfold advance_anchor prune
  dsimp only
  split
  next advances =>
    refine .ask fun root shown => ⟨{ root with pruned := some ⟨boundary.through_step_seq,boundary.covered_head⟩ },rfl,
      ⟨shown.records,shown.checkpoints,shown.acks,rfl,fun head known => ?_⟩⟩
    have held := shown.known head known
    unfold StoredOperation.head at held ⊢
    cases last : state.records.getLast? with
    | some final => rwa [last] at held
    | none =>
    -- with no record the anchor is the head, and a checkpoint covers no more
    obtain ⟨within,_⟩ := sound.covered boundary member
    rw [getLast?_eq_none_iff.mp last,length_nil,base] at within
    cases pruned : state.pruned with
    | none =>
      rw [pruned] at within
      exact absurd within (Nat.not_lt_zero _)
    | some anchor =>
    simp only [pruned,Option.elim_some,Option.all_some,decide_eq_true_eq] at within advances
    omega
  next => exact .value ()

private theorem prune_ends (sound : Sound state) (member : boundary ∈ state.checkpoints) :
    ∀ last ∈ state.records.getLast?, last.step_seq ≤ boundary.through_step_seq →
      (state.prune boundary).pruned = some ⟨last.step_seq,last.record_digest⟩ := by
  intro last final covered
  have listed := mem_of_getLast? final
  have placed := sound.numbered (getLast?_eq_getElem?.symm.trans final)
  have some_held : 0 < state.records.length := length_pos_of_mem listed
  obtain ⟨within,same⟩ := sound.covered boundary member
  have here : last.step_seq = boundary.through_step_seq := by omega
  have advances : (state.pruned.all fun pruned => decide (pruned.through_step_seq < boundary.through_step_seq)) = true := by
    unfold base at placed
    cases pruned : state.pruned with
    | none => rfl
    | some anchor =>
    simp only [pruned,Option.elim_some] at placed
    simp only [Option.all_some,decide_eq_true_eq]
    omega
  unfold prune
  rw [if_pos advances,here,same last listed here]

private theorem prune_receipt (boundary : InstalledCheckpoint) :
    some (max boundary.through_step_seq (state.pruned.elim boundary.through_step_seq PrunedAnchor.through_step_seq)) =
      (state.prune boundary).pruned.map PrunedAnchor.through_step_seq := by
  unfold prune
  cases state.pruned with
  | none => simp
  | some anchor =>
  simp only [Option.all_some,decide_eq_true_eq,Option.elim_some]
  split
  · simp only [Option.map_some,Option.some.injEq]
    omega
  · simp only [Option.map_some,Option.some.injEq]
    omega

/-- Both journals answer a prune alike. -/
theorem prune_answers (sound : Sound state) :
    match state.checkpoints.reverse.find? fun installed => installed.acknowledged with
    | none => Answers prune_acked_prefix state (.ok ⟨state.pruned.map PrunedAnchor.through_step_seq,0⟩) state
    | some boundary => Answers prune_acked_prefix state
        (.ok ⟨(state.prune boundary).pruned.map PrunedAnchor.through_step_seq,state.records.length-(state.prune boundary).records.length⟩)
        (state.prune boundary) ∧ Sound (state.prune boundary) := by
  have located := prune_boundary_answers sound
  cases found : state.checkpoints.reverse.find? fun installed => installed.acknowledged with
  | none =>
    rw [found] at located
    exact .bind (acked_ordinals_answers sound) (.bind pruned_anchor_answers (.bind (checkpoint_ordinals_answers sound) (.bind located (.value _))))
  | some boundary =>
  rw [found] at located
  have member : boundary ∈ state.checkpoints := mem_reverse.mp (mem_of_find?_eq_some found)
  have listing : Answers record_positions { state with pruned := (state.prune boundary).pruned }
      (.ok (state.records.map step_seq)) { state with pruned := (state.prune boundary).pruned } :=
    record_positions_listed sound.ordered sound.below
  have removed := @remove_records_answers { state with pruned := (state.prune boundary).pruned } boundary.through_step_seq
    state.records (pairwise_map.mp sound.ordered) (prune_ends sound member) 0
  rw [Nat.zero_add] at removed
  refine ⟨.bind (acked_ordinals_answers sound) (.bind pruned_anchor_answers (.bind (checkpoint_ordinals_answers sound) (.bind located
    (.bind (advance_anchor_answers sound member) (.bind listing (.bind removed ?_)))))),sound.prune member⟩
  rw [← prune_receipt]
  exact .value _

end

end Deepstrike.Journal
