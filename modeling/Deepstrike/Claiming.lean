import Deepstrike.FileJournal

/-!
The chain of a file journal under any interleaving. A record is claimed by its number, and a number is
free again once a prune has removed its file. As long as no append claims a number that an acknowledged
checkpoint covers, the records ever linked form one chain, and each acknowledged append is one of them.
-/
namespace Deepstrike.Journal
open Interleaving Folders List Folder Secure Option FileKernelJournal

/-- A digest is the one of the record that was linked at a position. -/
def Recorded (root : Root) (step_seq : Nat) (digest : String) : Prop :=
  ∃ made, root.records.made[step_seq]? = some made ∧ made.content.record_digest = digest

/-- A checkpoint is installed under an ordinal, and acknowledged. -/
def AckedAt (root : Root) (through_step_seq : Nat) (covered_head : String) : Prop :=
  ∃ ordinal file, root.checkpoints.read ordinal = some file ∧ (root.acks.read ordinal).isSome ∧
    file.through_step_seq = through_step_seq ∧ file.covered_head = covered_head

/-- An acknowledged checkpoint covers a position. -/
def Covered (root : Root) (step_seq : Nat) : Prop := ∃ through covered_head, AckedAt root through covered_head ∧ step_seq ≤ through

/-- The head a record was appended under, of the records before it. -/
def headBefore (made : List (Made JournalEntry)) : Nat → Option String
  | 0 => none
  | step_seq+1 => made[step_seq]?.map fun before => before.content.record_digest

/-- The records ever linked form one chain, and all that the folders and the hints say is about it. -/
structure Chained (root : Root) : Prop where
  placed : ∀ step_seq made, root.records.made[step_seq]? = some made →
    made.name = step_seq ∧ made.content.step_seq = step_seq ∧ made.content.previous_record_digest = headBefore root.records.made step_seq
  held : ∀ step_seq entry, root.records.read step_seq = some entry →
    ∃ made, root.records.made[step_seq]? = some made ∧ made.content = entry
  freed : ∀ step_seq, step_seq < root.records.made.length → root.records.read step_seq = none → Covered root step_seq
  covered : ∀ ordinal file, root.checkpoints.read ordinal = some file → Recorded root file.through_step_seq file.covered_head
  acked : ∀ made ∈ root.acks.made, (root.acks.read made.name).isSome
  anchored : ∀ anchor, root.pruned = some anchor → Recorded root anchor.through_step_seq anchor.covered_head
  known : ∀ owner head, root.known_heads owner = some head → Recorded root head.step_seq head.record_digest

/-- Records are only ever added to the history, and checkpoints and acknowledgements stay. -/
structure Grown (before after : Root) : Prop where
  records : before.records.made <+: after.records.made
  checkpoints : ∀ ordinal file, before.checkpoints.read ordinal = some file → after.checkpoints.read ordinal = some file
  acks : ∀ ordinal, (before.acks.read ordinal).isSome → (after.acks.read ordinal).isSome

/-- The records a call has linked. -/
def linkedBy (id : Nat) (root : Root) : List (Made JournalEntry) := root.records.made.filter fun made => made.author = id

/-- A record is not linked under a number that an acknowledged checkpoint covers. Such a number is free
    only when its file has been removed. -/
def Unfreed (root : Root) : FileOp → Prop
  | .HardLink .Records step_seq _ => root.records.read step_seq = none → ¬Covered root step_seq
  | _ => True

/-- What the calls on one root keep. -/
def claims : Discipline Root FileOp where
  inv := Chained
  grows := Grown
  keeps id before after := linkedBy id after = linkedBy id before
  fresh id root := linkedBy id root = []
  meets := Unfreed
  grows_refl _ := ⟨List.prefix_rfl,fun _ _ held => held,fun _ held => held⟩
  grows_trans _ _ _ before after :=
    ⟨before.records.trans after.records,fun ordinal file held => after.checkpoints ordinal file (before.checkpoints ordinal file held),
      fun ordinal held => after.acks ordinal (before.acks ordinal held)⟩
  keeps_refl _ _ := rfl
  keeps_trans _ _ _ _ before after := after.trans before
  fresh_kept _ _ _ kept fresh := kept.trans fresh

section
variable {before after root : Root} {step_seq : Nat} {digest : String}

theorem Recorded.grown (recorded : Recorded before step_seq digest) (grown : Grown before after) :
    Recorded after step_seq digest := by
  obtain ⟨made,placed,same⟩ := recorded
  obtain ⟨rest,whole⟩ := grown.records
  have bound := (List.getElem?_eq_some_iff.mp placed).1
  refine ⟨made,?_,same⟩
  rw [← whole,List.getElem?_append_left bound,placed]

variable {covered_head : String}

theorem AckedAt.grown (acked : AckedAt before step_seq covered_head) (grown : Grown before after) :
    AckedAt after step_seq covered_head := by
  obtain ⟨ordinal,file,held,marked,same⟩ := acked
  exact ⟨ordinal,file,grown.checkpoints ordinal file held,grown.acks ordinal marked,same⟩

theorem Covered.grown (covered : Covered before step_seq) (grown : Grown before after) : Covered after step_seq := by
  obtain ⟨through,covered_head,acked,reached⟩ := covered
  exact ⟨through,covered_head,acked.grown grown,reached⟩

theorem Chained.recorded (chained : Chained root) (acked : AckedAt root step_seq covered_head) :
    Recorded root step_seq covered_head := by
  obtain ⟨ordinal,file,held,_,rfl,rfl⟩ := acked
  exact chained.covered ordinal file held

end

/-- What a call knows of a value, as long as it has linked nothing. -/
def Told {α : Type} (id : Nat) (known : Root → α → Prop) (root : Root) (result : Except JournalError α) : Prop :=
  claims.fresh id root ∧ ∀ value, result = .ok value → known root value

section
variable {α β : Type} {id owner : Nat} {root : Root}

/-- Knowledge that grows with the folders. -/
def Lasting (known : Root → α → Prop) : Prop := ∀ value before after, Grown before after → known before value → known after value

variable {known : Root → α → Prop}

theorem Told.settled (lasting : Lasting known) {value : α} (fresh : claims.fresh id root) (here : known root value) :
    Settled claims id (Told id known) (.ok value) root := by
  intro later moved
  refine ⟨claims.fresh_kept id _ _ moved.keeps fresh,?_⟩
  rintro _ ⟨⟩
  exact lasting value root later moved.grows here

theorem Told.failed {error : JournalError} (fresh : claims.fresh id root) :
    Settled claims id (Told id known) (.error error) root :=
  fun _ moved => ⟨claims.fresh_kept id _ _ moved.keeps fresh,fun _ impossible => by cases impossible⟩

/-- A program that has linked nothing, followed by another. -/
theorem Told.bind {post : Root → Except JournalError β → Prop} {program : Journaled α} {rest : α → Journaled β}
    (kept : Chained root) (first : Secure files claims id owner (Told id known) program root)
    (next : ∀ value later, Chained later → Grown root later → claims.fresh id later → known later value →
      Secure files claims id owner post (rest value) later)
    (raised : ∀ error later, claims.fresh id later → post later (.error error)) :
    Secure files claims id owner post (program >>= rest) root :=
  Secure.bind kept first (fun value later held grown told => next value later held grown told.1 (told.2 value rfl))
    fun error later _ _ told => raised error later told.1

theorem Told.look {op : FileOp} {known : Root → FileAnswer op → Prop} (lasting : Lasting known)
    (fresh : claims.fresh id root)
    (seen : ∀ later, Chained later → Grown root later → ∀ choice answer after,
    Root.exec id owner op choice later = some (answer,after) →
      after = later ∧ known later answer) : Secure files claims id owner (Told id known) (fs op) root := by
  refine ask fun later moved _ choice answer after done => ?_
  obtain ⟨rfl,here⟩ := seen later moved.inv moved.grows choice answer after done
  exact ⟨moved.inv,claims.grows_refl _,fun _ _ => rfl,
    Told.settled lasting (claims.fresh_kept id _ _ moved.keeps fresh) here⟩

theorem Told.ofExcept {result : Except JournalError α} (lasting : Lasting known) (fresh : claims.fresh id root)
    (here : ∀ value, result = .ok value → known root value) :
    Secure files claims id owner (Told id known) (Program.ofExcept result) root := by
  refine Secure.ofExcept ?_
  cases result with
  | ok value => exact Told.settled lasting fresh (here value rfl)
  | error error => exact Told.failed fresh

end

/-- A head names a record of the chain. -/
def HeadKnown (root : Root) (head : Option JournalHead) : Prop := ∀ found, head = some found →
    Recorded root found.step_seq found.record_digest

theorem HeadKnown.lasting : Lasting HeadKnown := fun _ _ _ grown known found same => (known found same).grown grown

theorem lasting_true {α : Type} : Lasting fun (_ : Root) (_ : α) => True := fun _ _ _ _ _ => trivial

section
variable {id owner : Nat} {root : Root}

/-- A listing, with what is known of all names that were there at some time. -/
theorem secure_list_positions (place : Place) {known : Root → Nat → Prop} (lasting : Lasting known)
    (present : ∀ root, Chained root → ∀ name, ((root.folder place).read name).isSome → known root name)
    (linked : ∀ root, Chained root → ∀ made ∈ (root.folder place).made, known root made.name) (kept : Chained root)
    (fresh : claims.fresh id root) :
    Secure files claims id owner (Told id fun root names => ∀ name ∈ names, known root name)
    (list_positions place) root := by
  have opened : Lasting fun root (listing : Listing) => ∀ name ∈ listing.names, known root name :=
    fun listing before after grown here name member => lasting name before after grown (here name member)
  refine Told.bind kept (Told.look opened fresh fun later held _ choice answer after done => ?_) ?_ fun _ _ still => ⟨still,by simp⟩
  · cases done
    refine ⟨rfl,fun name member => present _ held name ?_⟩
    have inside := Std.ExtTreeMap.mem_keys.mp member
    rw [Folder.read,isSome_iff_ne_none]
    exact fun missing => read_eq_none.mp missing inside
  intro listing later held _ still listed
  refine Told.look (fun names before after grown here name member => lasting name before after grown (here name member)) still
    fun last kept grown choice answer after done => ?_
  by_cases ended : (last.folder place).ends listing choice
  · rw [Root.exec,if_pos ended] at done
    cases done
    refine ⟨rfl,fun name member => ?_⟩
    have named : name ∈ choice := (mem_insertionSort _).mp member
    obtain ⟨_,all⟩ := Bool.and_eq_true_iff.mp ended
    obtain before | since := Bool.or_eq_true_iff.mp (all_eq_true.mp all name named)
    · exact lasting name later _ grown (listed name (contains_iff_mem.mp before))
    · obtain ⟨made,found,rfl⟩ := mem_map.mp (contains_iff_mem.mp since)
      exact linked _ kept made (mem_of_mem_drop found)
  · rw [Root.exec,if_neg ended] at done
    cases done

theorem secure_positions (place : Place) (kept : Chained root) (fresh : claims.fresh id root) :
    Secure files claims id owner (Told id fun _ _ => True) (list_positions place) root :=
  (secure_list_positions place lasting_true (fun _ _ _ _ => trivial) (fun _ _ _ _ => trivial) kept fresh).weaken
    fun _ _ _ _ told => ⟨told.1,fun _ _ => trivial⟩

private theorem secure_read_record (step_seq : Nat) (kept : Chained root) (fresh : claims.fresh id root) :
    Secure files claims id owner (Told id fun root entry => ∀ found, entry = some found →
      found.step_seq = step_seq ∧ Recorded root found.step_seq found.record_digest) (read_record step_seq) root := by
  have lasting : Lasting fun root (entry : Option JournalEntry) => ∀ found, entry = some found →
      found.step_seq = step_seq ∧ Recorded root found.step_seq found.record_digest :=
    fun entry before after grown here found same => ⟨(here found same).1,(here found same).2.grown grown⟩
  refine Told.bind kept (Told.look lasting fresh fun later held _ choice answer after done => ?_) ?_ fun _ _ still => ⟨still,by simp⟩
  · cases done
    refine ⟨rfl,fun found same => ?_⟩
    obtain ⟨made,placed,content⟩ := held.held step_seq found same
    have named := (held.placed step_seq made placed).2.1
    rw [content] at named
    exact ⟨named,made,named ▸ placed,congrArg JournalEntry.record_digest content⟩
  intro entry later held _ still here
  cases entry with
  | none => exact Told.settled lasting still (by simp)
  | some found =>
  dsimp only
  split
  · exact Told.failed still
  · exact Told.settled lasting still here

private theorem secure_pruned_anchor (fresh : claims.fresh id root) :
    Secure files claims id owner (Told id fun root anchor => ∀ found, anchor = some found →
      Recorded root found.through_step_seq found.covered_head) pruned_anchor root := by
  refine Told.look (fun anchor before after grown here found same => (here found same).grown grown) fresh
    fun later held _ choice answer after done => ?_
  cases done
  exact ⟨rfl,fun found same => held.anchored found same⟩

private theorem secure_anchored (kept : Chained root) (fresh : claims.fresh id root) :
    Secure files claims id owner (Told id HeadKnown) anchored root := by
  refine Told.bind kept (secure_pruned_anchor fresh) ?_ fun _ _ still => ⟨still,by simp⟩
  intro anchor later held _ still here
  refine Told.settled HeadKnown.lasting still fun found same => ?_
  obtain ⟨pruned,present,rfl⟩ := map_eq_some_iff.mp same
  exact here pruned present

private theorem secure_scan_head (kept : Chained root) (fresh : claims.fresh id root) :
    Secure files claims id owner (Told id HeadKnown) scan_head root := by
  refine Told.bind kept (secure_positions .Records kept fresh) ?_ fun _ _ still => ⟨still,by simp⟩
  intro positions later held _ still _
  cases positions.getLast? with
  | none => exact secure_anchored held still
  | some last =>
  refine Told.bind held (secure_read_record last held still) ?_ fun _ _ still => ⟨still,by simp⟩
  intro entry now holds _ fresh here
  cases entry with
  | none => exact secure_anchored holds fresh
  | some found =>
  refine Told.settled HeadKnown.lasting fresh ?_
  rintro _ ⟨⟩
  exact (here found rfl).2

theorem Chained.remember (chained : Chained root) {head : Option JournalHead} (known : HeadKnown root head)
    (owner : Nat) :
    Chained (root.remember owner head) := by
  refine ⟨chained.placed,chained.held,chained.freed,chained.covered,chained.acked,chained.anchored,fun other found same => ?_⟩
  unfold Root.remember at same
  dsimp only at same
  split at same
  · exact known found same
  · exact chained.known other found same

private theorem secure_hint {op : FileOp} {head : Option JournalHead} (known : HeadKnown root head)
    (done : ∀ later choice answer after, Root.exec id owner op choice later = some (answer,after) → after = later.remember owner head)
    {post : Root → Except JournalError (FileAnswer op) → Prop}
    (settled : ∀ answer after, Chained after → Grown root after → claims.keeps id root after → Settled claims id post (.ok answer) after) :
    Secure files claims id owner post (fs op) root := by
  refine ask fun later moved _ choice answer after asked => ?_
  obtain rfl := done later choice answer after asked
  have held := moved.inv.remember (HeadKnown.lasting head root later moved.grows known) owner
  have same : Grown later (later.remember owner head) := ⟨prefix_rfl,fun _ _ held => held,fun _ held => held⟩
  exact ⟨held,same,fun _ _ => rfl,settled answer _ held (claims.grows_trans _ _ _ moved.grows same) moved.keeps⟩

private theorem secure_rescan (kept : Chained root) (fresh : claims.fresh id root) :
    Secure files claims id owner (Told id HeadKnown) rescan root := by
  refine Told.bind kept (secure_scan_head kept fresh) ?_ fun _ _ still => ⟨still,by simp⟩
  intro found later held _ still here
  cases found with
  | none => exact Told.settled HeadKnown.lasting still here
  | some head =>
  have hinted : Secure files claims id owner (Told id fun root _ => HeadKnown root (some head)) (fs (.Remember head)) later := by
    refine secure_hint here (fun _ _ _ _ asked => by cases asked; rfl) fun _ after _ grown keeps => ?_
    exact Told.settled (fun _ before after grown => HeadKnown.lasting _ before after grown) (claims.fresh_kept id _ _ keeps still)
      (HeadKnown.lasting _ _ _ grown here)
  refine Told.bind held hinted ?_ fun _ _ still => ⟨still,by simp⟩
  intro _ now _ _ fresh here
  exact Told.settled HeadKnown.lasting fresh here

private theorem secure_head (kept : Chained root) (fresh : claims.fresh id root) :
    Secure files claims id owner (Told id HeadKnown) head root := by
  have hint : Secure files claims id owner (Told id HeadKnown) (fs .Known) root := by
    refine Told.look HeadKnown.lasting fresh fun later held _ choice answer after done => ?_
    cases done
    exact ⟨rfl,fun found same => held.known owner found same⟩
  refine Told.bind kept hint ?_ fun _ _ still => ⟨still,by simp⟩
  intro known later held _ still here
  cases known with
  | none => exact secure_rescan held still
  | some found =>
  have probe : Secure files claims id owner (Told id fun _ _ => True) (fs (.TryExists .Records (found.step_seq+1))) later := by
    refine Told.look lasting_true still fun _ _ _ _ _ _ done => ?_
    cases done
    exact ⟨rfl,trivial⟩
  refine Told.bind held probe ?_ fun _ _ still => ⟨still,by simp⟩
  intro taken now holds grown fresh _
  cases taken with
  | true => exact secure_rescan holds fresh
  | false => exact Told.settled HeadKnown.lasting fresh (HeadKnown.lasting _ _ _ grown here)

/-- What a checked append stands on: nothing, or the record before it. -/
def Follows (root : Root) (expected_head : Option String) (step_seq : Nat) : Prop :=
  (expected_head = none ∧ step_seq = 0) ∨ ∃ before digest, step_seq = before+1 ∧ expected_head = some digest ∧ Recorded root before digest

variable {expected_head : Option String} {before after : Root}

theorem Follows.grown {step_seq : Nat} (follows : Follows before expected_head step_seq)
    (grown : Grown before after) : Follows after expected_head step_seq := by
  obtain start | ⟨previous,digest,next,same,recorded⟩ := follows
  · exact .inl start
  · exact .inr ⟨previous,digest,next,same,recorded.grown grown⟩

variable {record : JournalRecordInput}

private theorem checked_follows {head : Option JournalHead} (known : HeadKnown root head)
    (checked : check_append_precondition head expected_head record = .ok ()) : Follows root expected_head record.step_seq := by
  unfold check_append_precondition at checked
  split at checked
  next => cases checked
  next =>
    split at checked
    · cases checked
    next first => exact .inl ⟨rfl,not_not.mp first⟩
  next => cases checked
  next digest found =>
  split at checked
  · cases checked
  next same =>
  split at checked
  · cases checked
  next next_ =>
  have recorded := known found rfl
  rw [not_not.mp same] at recorded
  exact .inr ⟨found.step_seq,digest,not_not.mp next_,rfl,recorded⟩

/-- A record that follows the chain and is linked under a number nobody freed is the next one. -/
theorem Chained.linked {after : Folder JournalEntry} (chained : Chained root)
    (follows : Follows root expected_head record.step_seq)
    (unfreed : root.records.read record.step_seq = none → ¬Covered root record.step_seq)
    (done : root.records.link id record.step_seq (persisted expected_head record) = (true,after)) :
    Chained { root with records := after } ∧ Grown root { root with records := after } ∧
      after.made = root.records.made ++ [⟨id,record.step_seq,persisted expected_head record⟩] ∧
      Recorded { root with records := after } record.step_seq record.record_digest := by
  obtain ⟨free,made,placed⟩ := link_free done
  have last : record.step_seq = root.records.made.length := by
    have least : ¬record.step_seq < root.records.made.length := fun earlier => unfreed free (chained.freed _ earlier free)
    obtain ⟨_,first⟩ | ⟨before,digest,next,_,known,held,_⟩ := follows
    · omega
    · have bound := (List.getElem?_eq_some_iff.mp held).1
      omega
  have grown : Grown root { root with records := after } :=
    ⟨⟨_,made.symm⟩,fun _ _ held => held,fun _ held => held⟩
  have recorded : Recorded { root with records := after } record.step_seq record.record_digest :=
    ⟨_,by rw [made,last,getElem?_concat_length],rfl⟩
  refine ⟨⟨?_,?_,?_,?_,chained.acked,?_,?_⟩,grown,made,recorded⟩
  · intro step_seq found held
    dsimp only at held ⊢
    rw [made] at held ⊢
    have before : ∀ step_seq ≤ root.records.made.length,
      headBefore (root.records.made ++ [⟨id,record.step_seq,persisted expected_head record⟩]) step_seq =
        headBefore root.records.made step_seq := by
      intro step_seq bound
      cases step_seq with
      | zero => rfl
      | succ step_seq => rw [headBefore,headBefore,getElem?_append_left (by omega)]
    obtain earlier | rfl | beyond := Nat.lt_trichotomy step_seq root.records.made.length
    · rw [getElem?_append_left earlier] at held
      rw [before step_seq (Nat.le_of_lt earlier)]
      exact chained.placed step_seq found held
    · rw [getElem?_concat_length] at held
      cases held
      refine ⟨last,last,?_⟩
      rw [before _ (Nat.le_refl _),← last]
      obtain ⟨rfl,first⟩ | ⟨previous,digest,next,rfl,known,held,rfl⟩ := follows
      · rw [first]
        rfl
      · rw [next,headBefore,held]
        rfl
    · rw [getElem?_eq_none (by rw [length_append,length_singleton]; omega)] at held
      cases held
  · intro step_seq entry held
    rw [show after.read step_seq = _ from placed step_seq] at held
    dsimp only
    rw [made]
    split at held
    next same =>
      subst same
      cases held
      rw [last,getElem?_concat_length]
      exact ⟨_,rfl,rfl⟩
    next =>
    obtain ⟨older,found,content⟩ := chained.held step_seq entry held
    rw [List.getElem?_append_left (List.getElem?_eq_some_iff.mp found).1]
    exact ⟨older,found,content⟩
  · intro step_seq bound held
    rw [show after.read step_seq = _ from placed step_seq] at held
    dsimp only at bound
    rw [made,length_append,length_singleton] at bound
    split at held
    · cases held
    next apart =>
    have covered := chained.freed step_seq (by omega) held
    exact covered.grown grown
  · exact fun ordinal file held => (chained.covered ordinal file held).grown grown
  · exact fun anchor held => (chained.anchored anchor held).grown grown
  · exact fun owner head held => (chained.known owner head held).grown grown

variable {made : Made JournalEntry}

private theorem linkedBy_other (grown : after.records.made = before.records.made ++ [made]) {other : Nat}
    (apart : other ≠ made.author) : linkedBy other after = linkedBy other before := by
  unfold linkedBy
  rw [grown,filter_append]
  simp [Ne.symm apart]

private theorem linkedBy_own (grown : after.records.made = before.records.made ++ [made])
    (same : made.author = id) (fresh : linkedBy id before = []) : linkedBy id after = [made] := by
  unfold linkedBy at fresh ⊢
  rw [grown,filter_append,fresh]
  simp [same]

/-- How an append ends: it has linked its record, or none. -/
def Appended (id : Nat) (expected_head : Option String) (record : JournalRecordInput) {α : Type}
    (root : Root) : Except JournalError α → Prop
  | .ok _ => linkedBy id root = [⟨id,record.step_seq,persisted expected_head record⟩]
  | .error _ => linkedBy id root = []

/-- How the link of a record ends: it is in the chain, or the call has linked none. -/
def Claimed (id : Nat) (expected_head : Option String) (record : JournalRecordInput) (root : Root) : Except JournalError Bool → Prop
  | .ok true => linkedBy id root = [⟨id,record.step_seq,persisted expected_head record⟩] ∧
    Recorded root record.step_seq record.record_digest
  | .ok false | .error _ => linkedBy id root = []

private theorem secure_claim (fresh : claims.fresh id root)
    (follows : Follows root expected_head record.step_seq) :
    Secure files claims id owner (Claimed id expected_head record)
      (fs (.HardLink .Records record.step_seq (persisted expected_head record))) root := by
  refine ask fun later moved unfreed choice claimed after done => ?_
  have still := claims.fresh_kept id _ _ moved.keeps fresh
  cases linked : later.records.link id record.step_seq (persisted expected_head record) with
  | mk free folder =>
  have performed : Root.exec id owner (.HardLink .Records record.step_seq (persisted expected_head record)) choice later =
      some (free,{ later with records := folder }) := by
    rw [Root.exec]
    simp only [Root.folder,linked,Root.setFolder]
  cases performed.symm.trans done
  cases claimed with
  | true =>
    obtain ⟨held,grown,made,recorded⟩ := moved.inv.linked (follows.grown moved.grows) unfreed linked
    refine ⟨held,grown,fun other apart => linkedBy_other made apart,fun last since => ?_⟩
    exact ⟨since.keeps.trans (linkedBy_own made rfl still),recorded.grown since.grows⟩
  | false =>
  cases link_taken linked
  exact ⟨moved.inv,claims.grows_refl later,fun _ _ => rfl,fun last since => since.keeps.trans still⟩

private theorem secure_publish_record (kept : Chained root) (fresh : claims.fresh id root)
    (follows : Follows root expected_head record.step_seq) :
    Secure files claims id owner (Appended id expected_head record) (publish_record expected_head record) root := by
  refine bind kept (secure_claim fresh follows) ?_ fun _ _ _ _ none => none
  intro claimed later held _ ended
  cases claimed with
  | true =>
    obtain ⟨own,recorded⟩ := ended
    have hinted : Secure files claims id owner (Appended id expected_head record)
        (fs (.Remember ⟨record.step_seq,record.record_digest⟩)) later := by
      refine secure_hint ?_ (fun _ _ _ _ asked => by cases asked; rfl) fun _ after _ _ keeps last moved => ?_
      · rintro _ ⟨⟩
        exact recorded
      · exact moved.keeps.trans (keeps.trans own)
    exact bind held hinted (fun _ now _ _ linked last moved => moved.keeps.trans linked) fun _ _ _ _ none => none
  | false =>
  have nothing : HeadKnown later none := fun _ same => nomatch same
  have forgotten : Secure files claims id owner (Told id fun _ _ => True) (fs .Forget) later := by
    refine secure_hint nothing (fun _ _ _ _ asked => by cases asked; rfl) fun _ after _ _ keeps => ?_
    exact Told.settled lasting_true (claims.fresh_kept id _ _ keeps ended) trivial
  refine Told.bind held forgotten (fun _ now _ _ fresh _ last moved => ?_) fun _ _ fresh => fresh
  exact claims.fresh_kept id _ _ moved.keeps fresh

private theorem secure_compare_and_append (expected_head : Option String) (record : JournalRecordInput)
    (kept : Chained root) (fresh : claims.fresh id root) :
    Secure files claims id owner (Appended id expected_head record) (compare_and_append expected_head record) root := by
  refine Told.bind kept (Told.ofExcept lasting_true fresh fun _ _ => trivial) ?_ fun _ _ still => still
  intro _ later held _ fresh _
  refine Told.bind held (secure_head held fresh) ?_ fun _ _ still => still
  intro observed now holds _ fresh known
  have checked : Secure files claims id owner (Told id fun root _ => Follows root expected_head record.step_seq)
      (Program.ofExcept (check_append_precondition observed expected_head record)) now := by
    refine Told.ofExcept (fun _ _ _ grown follows => follows.grown grown) fresh fun _ passed => ?_
    exact checked_follows known passed
  refine Told.bind holds checked ?_ fun _ _ still => still
  exact fun _ last kept _ fresh follows => secure_publish_record kept fresh follows

/-- A checkpoint that was read has a file that stays. -/
def CheckpointKnown (ordinal : Nat) (root : Root) (checkpoint : Option InstalledCheckpoint) : Prop :=
  ∀ found, checkpoint = some found → ∃ file, root.checkpoints.read ordinal = some file ∧
    file.through_step_seq = found.through_step_seq ∧ file.covered_head = found.covered_head

theorem CheckpointKnown.lasting (ordinal : Nat) : Lasting (CheckpointKnown ordinal) := by
  intro checkpoint before after grown known found same
  obtain ⟨file,held,told⟩ := known found same
  exact ⟨file,grown.checkpoints ordinal file held,told⟩

/-- The listed acknowledgements are there. -/
def AcksKnown (root : Root) (ordinals : List Nat) : Prop := ∀ ordinal ∈ ordinals, (root.acks.read ordinal).isSome

theorem AcksKnown.lasting :
    Lasting AcksKnown := fun _ _ _ grown known ordinal member => grown.acks ordinal (known ordinal member)

private theorem secure_acked_ordinals (kept : Chained root) (fresh : claims.fresh id root) :
    Secure files claims id owner (Told id AcksKnown) acked_ordinals root :=
  secure_list_positions .Acks (fun _ _ _ grown held => grown.acks _ held) (fun _ _ _ held => held) (fun _ chained => chained.acked) kept fresh

private theorem secure_read_checkpoint (ordinal : Nat) (acked : Option (List Nat)) (kept : Chained root) (fresh : claims.fresh id root) :
    Secure files claims id owner (Told id (CheckpointKnown ordinal)) (read_checkpoint ordinal acked) root := by
  have looked : Secure files claims id owner (Told id fun root file => ∀ found, file = some found →
      root.checkpoints.read ordinal = some found) (fs (.Read .Checkpoints ordinal)) root := by
    refine Told.look (fun _ _ _ grown here found same => grown.checkpoints ordinal found (here found same)) fresh
      fun later held _ choice answer after done => ?_
    cases done
    exact ⟨rfl,fun found same => same⟩
  refine Told.bind kept looked ?_ fun _ _ still => ⟨still,by simp⟩
  intro file later held _ still here
  cases file with
  | none => exact Told.settled (CheckpointKnown.lasting ordinal) still (by intro _ none; cases none)
  | some found =>
  have listed : Secure files claims id owner (Told id fun _ _ => True) (acked_or_listed acked) later := by
    cases acked with
    | some acked => exact Told.settled lasting_true still trivial
    | none => exact (secure_acked_ordinals held still).weaken fun _ _ _ _ told => ⟨told.1,fun _ _ => trivial⟩
  refine Told.bind held listed ?_ fun _ _ still => ⟨still,by simp⟩
  intro ordinals now _ grown fresh _
  refine Told.settled (CheckpointKnown.lasting ordinal) fresh ?_
  rintro _ ⟨⟩
  exact ⟨found,grown.checkpoints ordinal found (here found rfl),rfl,rfl⟩

private theorem secure_latest_checkpoint (kept : Chained root) (fresh : claims.fresh id root) :
    Secure files claims id owner (Told id fun _ _ => True) latest_checkpoint root := by
  refine Told.bind kept (secure_positions .Checkpoints kept fresh) ?_ fun _ _ still => ⟨still,by simp⟩
  intro ordinals later held _ still _
  cases ordinals.getLast? with
  | none => exact Told.settled lasting_true still trivial
  | some ordinal => exact (secure_read_checkpoint ordinal none held still).weaken fun _ _ _ _ told => ⟨told.1,fun _ _ => trivial⟩

/-- A link in another folder leaves the records as they are. -/
theorem secure_mark {place : Place} {name : Nat} {content : Content place} (fresh : claims.fresh id root)
    (kept : ∀ later folder, Chained later → Grown root later →
    (later.folder place).link id name content = (true,folder) →
      Chained (later.setFolder place folder) ∧ Grown later (later.setFolder place folder) ∧
      (later.setFolder place folder).records = later.records) :
    Secure files claims id owner (Told id fun _ _ => True) (fs (.HardLink place name content)) root := by
  refine ask fun later moved _ choice claimed after done => ?_
  have still := claims.fresh_kept id _ _ moved.keeps fresh
  cases linked : (later.folder place).link id name content with
  | mk free folder =>
  have performed : Root.exec id owner (.HardLink place name content) choice later = some (free,later.setFolder place folder) := by
    rw [Root.exec]
    simp only [linked]
  cases performed.symm.trans done
  cases claimed with
  | true =>
    obtain ⟨held,grown,same⟩ := kept later folder moved.inv moved.grows linked
    have stays : ∀ other, linkedBy other (later.setFolder place folder) = linkedBy other later := by
      intro other
      unfold linkedBy
      rw [same]
    exact ⟨held,grown,fun other _ => stays other,Told.settled lasting_true ((stays id).trans still) trivial⟩
  | false =>
  cases link_taken linked
  have same : later.setFolder place (later.folder place) = later := by cases place <;> rfl
  rw [same]
  exact ⟨moved.inv,claims.grows_refl later,fun _ _ => rfl,Told.settled lasting_true still trivial⟩

private theorem secure_compare_and_install_checkpoint (previous_checkpoint_id : Option String) (covered_head : String)
    (checkpoint : CheckpointCandidate)
    (kept : Chained root) (fresh : claims.fresh id root) :
    Secure files claims id owner (Told id fun _ _ => True)
      (compare_and_install_checkpoint previous_checkpoint_id covered_head checkpoint) root := by
  refine Told.bind kept (Told.ofExcept lasting_true fresh fun _ _ => trivial) ?_ fun _ _ still => ⟨still,by simp⟩
  intro _ first held _ fresh _
  refine Told.bind held (secure_latest_checkpoint held fresh) ?_ fun _ _ still => ⟨still,by simp⟩
  intro latest second held _ fresh _
  refine Told.bind held (Told.ofExcept lasting_true fresh fun _ _ => trivial) ?_ fun _ _ still => ⟨still,by simp⟩
  intro _ third held _ fresh _
  refine Told.bind held (secure_read_record checkpoint.through_step_seq held fresh) ?_ fun _ _ still => ⟨still,by simp⟩
  intro covered fourth held _ fresh found
  refine Told.bind held (secure_pruned_anchor fresh) ?_ fun _ _ still => ⟨still,by simp⟩
  intro pruned fifth held grown fresh anchor
  have verified : Secure files claims id owner (Told id fun root _ => Recorded root checkpoint.through_step_seq covered_head)
      (Program.ofExcept (verify_covered_head covered pruned covered_head checkpoint.through_step_seq)) fifth := by
    refine Told.ofExcept (fun _ _ _ grown recorded => recorded.grown grown) fresh fun _ passed => ?_
    unfold verify_covered_head at passed
    split at passed
    next entry =>
      split at passed
      · cases passed
      next same =>
      obtain ⟨named,recorded⟩ := found entry rfl
      rw [named,not_not.mp same] at recorded
      exact recorded.grown grown
    next =>
    split at passed
    next same => exact anchor _ same
    · cases passed
  refine Told.bind held verified ?_ fun _ _ still => ⟨still,by simp⟩
  intro _ sixth held _ fresh recorded
  refine Told.bind held (secure_mark fresh fun later folder kept grown done => ?_) ?_ fun _ _ still => ⟨still,by simp⟩
  · obtain ⟨free,_,placed⟩ := link_free done
    have stays : Grown later (later.setFolder .Checkpoints folder) := by
      refine ⟨prefix_rfl,fun ordinal file held => ?_,fun _ held => held⟩
      rw [show (later.setFolder .Checkpoints folder).checkpoints.read ordinal = _ from placed ordinal]
      split
      next same =>
        subst same
        rw [show later.checkpoints.read _ = none from free] at held
        cases held
      next => exact held
    refine ⟨⟨kept.placed,kept.held,?_,?_,kept.acked,kept.anchored,kept.known⟩,stays,rfl⟩
    · exact fun step_seq bound gone => (kept.freed step_seq bound gone).grown stays
    intro ordinal file held
    rw [show (later.setFolder .Checkpoints folder).checkpoints.read ordinal = _ from placed ordinal] at held
    split at held
    · cases held
      exact (recorded.grown grown).grown stays
    · exact (kept.covered ordinal file held).grown stays
  · intro claimed last held _ fresh _
    cases claimed with
    | true => exact Told.settled lasting_true fresh trivial
    | false => exact Told.failed fresh

private theorem secure_ack_listed (checkpoint_id : String) (ordinals : List Nat) : ∀ {root : Root}, Chained root → claims.fresh id root →
    Secure files claims id owner (Told id fun _ _ => True) (ack_listed checkpoint_id ordinals) root := by
  induction ordinals with
  | nil => exact fun _ fresh => Told.failed fresh
  | cons ordinal rest ih =>
  intro root kept fresh
  refine Told.bind kept (secure_read_checkpoint ordinal none kept fresh) ?_ fun _ _ still => ⟨still,by simp⟩
  intro read later held _ still _
  cases read with
  | none => exact ih held still
  | some installed =>
  dsimp only
  split
  · exact ih held still
  split
  · exact Told.settled lasting_true still trivial
  refine Told.bind held (secure_mark still fun now folder kept grown done => ?_) ?_ fun _ _ still => ⟨still,by simp⟩
  · obtain ⟨free,made,placed⟩ := link_free done
    have stays : Grown now (now.setFolder .Acks folder) := by
      refine ⟨prefix_rfl,fun _ _ held => held,fun other held => ?_⟩
      rw [show (now.setFolder .Acks folder).acks.read other = _ from placed other]
      split
      · rfl
      · exact held
    refine ⟨⟨kept.placed,kept.held,fun step_seq bound gone => (kept.freed step_seq bound gone).grown stays,kept.covered,?_,kept.anchored,
      kept.known⟩,stays,rfl⟩
    intro mark member
    rw [show (now.setFolder .Acks folder).acks.made = _ from made] at member
    rw [show (now.setFolder .Acks folder).acks.read mark.name = _ from placed mark.name]
    obtain older | new := mem_append.mp member
    · split
      · rfl
      · exact kept.acked mark older
    · cases mem_singleton.mp new
      rw [if_pos rfl]
      rfl
  · exact fun _ now _ _ fresh _ => Told.settled lasting_true fresh trivial

private theorem secure_ack_checkpoint (checkpoint_id : String) (kept : Chained root) (fresh : claims.fresh id root) :
    Secure files claims id owner (Told id fun _ _ => True) (ack_checkpoint checkpoint_id) root := by
  refine Told.bind kept (secure_positions .Checkpoints kept fresh) ?_ fun _ _ still => ⟨still,by simp⟩
  exact fun ordinals later held _ still _ => secure_ack_listed checkpoint_id ordinals.reverse held still

/-- A boundary of a prune is an acknowledged checkpoint. -/
def BoundaryKnown (root : Root) (boundary : Option InstalledCheckpoint) : Prop :=
  ∀ found, boundary = some found → AckedAt root found.through_step_seq found.covered_head

theorem BoundaryKnown.lasting :
    Lasting BoundaryKnown := fun _ _ _ grown known found same => (known found same).grown grown

private theorem secure_prune_boundary {acked : List Nat} (ordinals : List Nat) (kept : Chained root) (fresh : claims.fresh id root)
    (known : AcksKnown root acked) : Secure files claims id owner (Told id BoundaryKnown) (prune_boundary acked ordinals) root := by
  unfold prune_boundary
  split
  next ordinal found =>
    have marked := known ordinal (contains_iff_mem.mp (find?_some found))
    refine (secure_read_checkpoint ordinal (some acked) kept fresh).weaken fun result later _ grown told => ⟨told.1,?_⟩
    intro boundary same installed here
    obtain ⟨file,held,through,covered⟩ := told.2 boundary same installed here
    exact ⟨ordinal,file,held,grown.acks ordinal marked,through,covered⟩
  next => exact Told.settled BoundaryKnown.lasting fresh (fun _ none => nomatch none)

private theorem secure_advance_anchor {existing : Option PrunedAnchor} {boundary : InstalledCheckpoint} (fresh : claims.fresh id root)
    (known : AckedAt root boundary.through_step_seq boundary.covered_head) :
    Secure files claims id owner (Told id fun _ _ => True) (advance_anchor existing boundary) root := by
  unfold advance_anchor
  split
  next =>
    refine ask fun later moved _ choice answer after done => ?_
    cases done
    have recorded := moved.inv.recorded (known.grown moved.grows)
    refine ⟨⟨moved.inv.placed,moved.inv.held,moved.inv.freed,moved.inv.covered,moved.inv.acked,?_,moved.inv.known⟩,
      ⟨prefix_rfl,fun _ _ held => held,fun _ held => held⟩,fun _ _ => rfl,
      Told.settled lasting_true (claims.fresh_kept id _ _ moved.keeps fresh) trivial⟩
    rintro _ ⟨⟩
    exact recorded
  next => exact Told.settled lasting_true fresh trivial

private theorem Chained.removed (chained : Chained root) {position : Nat} (covered : Covered root position) :
    Chained { root with records := root.records.unlink position } := by
  refine ⟨chained.placed,fun step_seq entry held => chained.held step_seq entry (read_of_read_unlink held),?_,chained.covered,
    chained.acked,chained.anchored,chained.known⟩
  intro step_seq bound gone
  dsimp only at gone
  rw [read_unlink] at gone
  split at gone
  next same =>
    subst same
    exact covered
  next => exact chained.freed step_seq bound gone

private theorem secure_remove_records {through_step_seq : Nat} {covered_head : String} (positions : List Nat) : ∀ (pruned_count : Nat) {root : Root},
    Chained root → claims.fresh id root → AckedAt root through_step_seq covered_head →
      Secure files claims id owner (Told id fun _ _ => True) (remove_records through_step_seq positions pruned_count) root := by
  induction positions with
  | nil => exact fun _ _ _ fresh _ => Told.settled lasting_true fresh trivial
  | cons position rest ih =>
  intro pruned_count root kept fresh acked
  unfold remove_records
  split
  · exact Told.settled lasting_true fresh trivial
  next inside =>
  have gone : Secure files claims id owner (Told id fun _ _ => True) (fs (.RemoveRecord position)) root := by
    refine ask fun later moved _ choice answer after done => ?_
    cases done
    refine ⟨moved.inv.removed ⟨_,_,acked.grown moved.grows,Nat.not_lt.mp inside⟩,
      ⟨prefix_rfl,fun _ _ held => held,fun _ held => held⟩,fun _ _ => rfl,
      Told.settled lasting_true (claims.fresh_kept id _ _ moved.keeps fresh) trivial⟩
  refine Told.bind kept gone ?_ fun _ _ still => ⟨still,by simp⟩
  exact fun _ later held grown still _ => ih (pruned_count+1) held still (acked.grown grown)

private theorem secure_prune (kept : Chained root) (fresh : claims.fresh id root) :
    Secure files claims id owner (Told id fun _ _ => True) prune_acked_prefix root := by
  refine Told.bind kept (secure_acked_ordinals kept fresh) ?_ fun _ _ still => ⟨still,by simp⟩
  intro acked first held _ fresh known
  refine Told.bind held (secure_pruned_anchor fresh) ?_ fun _ _ still => ⟨still,by simp⟩
  intro existing second held grown fresh _
  have known := AcksKnown.lasting acked first second grown known
  refine Told.bind held (secure_positions .Checkpoints held fresh) ?_ fun _ _ still => ⟨still,by simp⟩
  intro ordinals third held grown fresh _
  have known := AcksKnown.lasting acked second third grown known
  refine Told.bind held (secure_prune_boundary ordinals held fresh known) ?_ fun _ _ still => ⟨still,by simp⟩
  intro boundary fourth held _ fresh bounded
  cases boundary with
  | none => exact Told.settled lasting_true fresh trivial
  | some boundary =>
  have acked := bounded boundary rfl
  refine Told.bind held (secure_advance_anchor fresh acked) ?_ fun _ _ still => ⟨still,by simp⟩
  intro _ fifth held grown fresh _
  have acked := acked.grown grown
  refine Told.bind held (secure_positions .Records held fresh) ?_ fun _ _ still => ⟨still,by simp⟩
  intro positions sixth held grown fresh _
  refine Told.bind held (secure_remove_records positions 0 held fresh (acked.grown grown)) ?_ fun _ _ still => ⟨still,by simp⟩
  exact fun _ last _ _ fresh _ => Told.settled lasting_true fresh trivial

/-- How the calls end: an append that succeeded has linked its record, and no other call has linked any. -/
def Ended (id : Nat) (request : JournalRequest) (root : Root) (result : Except JournalError JournalResponse) : Prop :=
  match request with
  | .CompareAndAppend expected_head record => Appended id expected_head record root result
  | _ => linkedBy id root = []

private theorem secure_answerTo (request : JournalRequest) (kept : Chained root) (fresh : claims.fresh id root) :
    Secure files claims id owner (Ended id request) (answerTo request) root := by
  cases request with
  | CompareAndAppend expected_head record =>
    refine bind kept (secure_compare_and_append expected_head record kept fresh) ?_ fun _ _ _ _ none => none
    exact fun receipt later held _ linked last moved => moved.keeps.trans linked
  | Head =>
    refine Told.bind kept (secure_head kept fresh) ?_ fun _ _ still => still
    exact fun _ later _ _ fresh _ last moved => moved.keeps.trans fresh
  | CompareAndInstallCheckpoint previous_checkpoint_id covered_head checkpoint =>
    refine Told.bind kept (secure_compare_and_install_checkpoint previous_checkpoint_id covered_head checkpoint kept fresh) ?_
      fun _ _ still => still
    exact fun _ later _ _ fresh _ last moved => moved.keeps.trans fresh
  | AckCheckpoint checkpoint_id =>
    refine Told.bind kept (secure_ack_checkpoint checkpoint_id kept fresh) ?_ fun _ _ still => still
    exact fun _ later _ _ fresh _ last moved => moved.keeps.trans fresh
  | PruneAckedPrefix =>
  refine Told.bind kept (secure_prune kept fresh) ?_ fun _ _ still => still
  exact fun _ later _ _ fresh _ last moved => moved.keeps.trans fresh

end

theorem Chained.empty : Chained .empty := by
  refine ⟨?_,?_,?_,?_,?_,?_,?_⟩
  · intro step_seq made held
    cases held
  · intro step_seq entry held
    simp [Root.empty,Folder.empty,Folder.read] at held
  · intro step_seq bound
    exact (Nat.not_lt_zero _ bound).elim
  · intro ordinal file held
    simp [Root.empty,Folder.empty,Folder.read] at held
  · intro made member
    cases member
  · intro anchor held
    cases held
  · intro owner head held
    cases held

/-- A run of journals in which no append takes a number that was freed. -/
def Runs (journals : Journals) : Prop := Machine.Reached files answerTo Unfreed .empty journals

theorem Runs.sound {journals : Journals} (runs : Runs journals) : journals.Sound claims files Ended := by
  induction runs with
  | start => exact ⟨Chained.empty,fun id call found => (nomatch found),fun id _ => rfl⟩
  | step _ action abides ih =>
  refine ih.step action abides (fun id owner request root kept fresh => secure_answerTo request kept fresh) ?_
  intro owner root kept id
  have nothing : HeadKnown root none := fun _ same => nomatch same
  exact ⟨kept.remember nothing owner,⟨prefix_rfl,fun _ _ held => held,fun _ held => held⟩,rfl⟩

/-- An append has returned its receipt. -/
def Acknowledged (journals : Journals) (id : Nat) (expected_head : Option String) (record : JournalRecordInput) : Prop :=
  ∃ call response, journals.calls[id]? = some call ∧ call.request = .CompareAndAppend expected_head record ∧
  call.phase = .Returned (.ok response)

/-- A call has not returned: it is on its way, or was cut off. -/
def Unanswered (journals : Journals) (id : Nat) : Prop :=
  ∃ call, journals.calls[id]? = some call ∧ ∀ result, call.phase ≠ .Returned result

/-- The acknowledged appends form one chain: no two have one number, each was appended under the digest
    of the acknowledged record before it, and where that append has not returned, under the digest of
    the record it has linked. -/
structure OneChain (journals : Journals) : Prop where
  once : ∀ first second expected_head other_head record other, Acknowledged journals first expected_head record →
    Acknowledged journals second other_head other → record.step_seq = other.step_seq → first = second
  under : ∀ id before expected_head other_head record previous, Acknowledged journals id expected_head record →
    Acknowledged journals before other_head previous → record.step_seq = previous.step_seq+1 → expected_head = some previous.record_digest
  unbroken : ∀ id expected_head record, Acknowledged journals id expected_head record →
    (record.step_seq = 0 ∧ expected_head = none) ∨ ∃ made ∈ journals.shared.records.made,
      record.step_seq = made.content.step_seq+1 ∧ expected_head = some made.content.record_digest ∧
        ((∃ other_head previous, Acknowledged journals made.author other_head previous ∧
          made.content = persisted other_head previous) ∨ Unanswered journals made.author)

section
variable {journals : Journals} {id : Nat} {expected_head : Option String} {record : JournalRecordInput}

theorem Acknowledged.linked (acknowledged : Acknowledged journals id expected_head record)
    (sound : journals.Sound claims files Ended) :
    linkedBy id journals.shared = [⟨id,record.step_seq,persisted expected_head record⟩] ∧
      journals.shared.records.made[record.step_seq]? = some ⟨id,record.step_seq,persisted expected_head record⟩ := by
  obtain ⟨call,response,found,asked,returned⟩ := acknowledged
  have known := sound.calls id call found
  unfold Call.Sound at known
  rw [returned,asked] at known
  have own : linkedBy id journals.shared = [⟨id,record.step_seq,persisted expected_head record⟩] :=
    known journals.shared (.refl sound.inv)
  have member : (⟨id,record.step_seq,persisted expected_head record⟩ : Made JournalEntry) ∈ journals.shared.records.made := by
    have listed : _ ∈ linkedBy id journals.shared := own ▸ mem_singleton_self _
    exact (mem_filter.mp listed).1
  obtain ⟨index,held⟩ := mem_iff_getElem?.mp member
  obtain rfl : record.step_seq = index := (sound.inv.placed index _ held).1
  exact ⟨own,held⟩

/-- The author of a linked record has been acknowledged with it, or has not returned. -/
theorem authored {made : Made JournalEntry} (sound : journals.Sound claims files Ended)
    (member : made ∈ journals.shared.records.made) :
    (∃ other_head previous, Acknowledged journals made.author other_head previous ∧
      made.content = persisted other_head previous) ∨ Unanswered journals made.author := by
  have listed : made ∈ linkedBy made.author journals.shared := mem_filter.mpr ⟨member,by simp⟩
  have begun : made.author < journals.calls.length := by
    by_contra beyond
    rw [show linkedBy made.author journals.shared = [] from sound.fresh made.author (Nat.not_lt.mp beyond)] at listed
    cases listed
  have found := getElem?_eq_getElem begun
  have known := sound.calls made.author _ found
  unfold Call.Sound at known
  split at known
  next program running => exact .inr ⟨_,found,fun result returned => by rw [running] at returned; cases returned⟩
  next result returned =>
    have ended := known journals.shared (.refl sound.inv)
    unfold Ended at ended
    split at ended
    next other_head previous asked =>
      cases result with
      | ok response =>
        rw [show linkedBy made.author journals.shared = _ from ended] at listed
        exact .inl ⟨other_head,previous,⟨_,response,found,asked,returned⟩,congrArg Made.content (mem_singleton.mp listed)⟩
      | error error =>
      rw [show linkedBy made.author journals.shared = [] from ended] at listed
      cases listed
    next =>
    rw [ended] at listed
    cases listed
  next stopped => exact .inr ⟨_,found,fun result returned => by rw [stopped] at returned; cases returned⟩

end

/-- In every run of any number of processes, with any interleaving and crashes, in which no append takes a
    number that an acknowledged checkpoint covers, the acknowledged appends form one chain. -/
theorem appends_form_one_chain (journals : Journals) (runs : Runs journals) : OneChain journals := by
  have sound := runs.sound
  refine ⟨?_,?_,?_⟩
  · intro first second expected_head other_head record other one two same
    obtain ⟨_,held⟩ := one.linked sound
    obtain ⟨_,placed⟩ := two.linked sound
    rw [same,placed] at held
    exact (congrArg Made.author (some.inj held)).symm
  · intro id before expected_head other_head record previous appended earlier next
    obtain ⟨_,held⟩ := appended.linked sound
    obtain ⟨_,placed⟩ := earlier.linked sound
    have under := (sound.inv.placed _ _ held).2.2
    rw [next,headBefore,placed] at under
    exact under
  intro id expected_head record appended
  obtain ⟨_,held⟩ := appended.linked sound
  have under : expected_head = headBefore journals.shared.records.made record.step_seq := (sound.inv.placed _ _ held).2.2
  cases number : record.step_seq with
  | zero =>
    rw [number] at under
    exact .inl ⟨rfl,under⟩
  | succ before =>
  have bound := (List.getElem?_eq_some_iff.mp held).1
  have placed : journals.shared.records.made[before]? = some _ := getElem?_eq_getElem (by omega)
  rw [number,headBefore,placed] at under
  have member := mem_of_getElem? placed
  refine .inr ⟨_,member,?_,under,authored sound member⟩
  rw [(sound.inv.placed before _ placed).2.1]

theorem Chained.behind {root : Root} (chained : Chained root) : ¬Covered root root.records.made.length := by
  rintro ⟨through,covered_head,acked,reached⟩
  obtain ⟨made,held,_⟩ := chained.recorded acked
  have bound := (List.getElem?_eq_some_iff.mp held).1
  omega

/-- An action links a record, if it does, at a number that is taken or behind all that were ever linked. -/
def linksBehind (journals : Journals) : JournalAction → Bool
  | .Move id _ =>
    match journals.calls[id]? with
    | some ⟨_,_,.Running (.perform (.HardLink .Records step_seq _) _)⟩ =>
      (journals.shared.records.read step_seq).isSome || step_seq == journals.shared.records.made.length
    | _ => true
  | _ => true

theorem Runs.behind {journals : Journals} (runs : Runs journals) {action : JournalAction}
    (behind : linksBehind journals action) :
    Runs (journals.step action) := by
  refine .step runs action ?_
  rintro id choice rfl call op next found running
  obtain ⟨owner,request,phase⟩ := call
  cases running
  unfold Unfreed
  split
  next step_seq content =>
    intro free
    simp only [linksBehind,found,free,isSome_none,Bool.false_or,beq_iff_eq] at behind
    rw [behind]
    exact runs.sound.inv.behind
  next => trivial

/-- The journals after a run, if all its actions link behind the others. -/
def runBehind (journals : Journals) : List JournalAction → Option Journals
  | [] => some journals
  | action :: rest => if linksBehind journals action then runBehind (journals.step action) rest else none

theorem Runs.runBehind {actions : List JournalAction} : ∀ {journals after : Journals}, Runs journals →
    Journal.runBehind journals actions = some after → Runs after := by
  induction actions with
  | nil =>
    intro journals after runs done
    cases done
    exact runs
  | cons action rest ih =>
  intro journals after runs done
  unfold Journal.runBehind at done
  split at done
  next behind => exact ih (runs.behind behind) done
  next => cases done

def plainRecord (step_seq : Nat) (record_digest : String) : JournalRecordInput := ⟨step_seq,record_digest,[]⟩

def moves (id count : Nat) : List JournalAction := List.replicate count (.Move id [])

/-- A process appends two records, covers the first with a checkpoint, acknowledges it and prunes. -/
def coveredFirst : List JournalAction :=
  .Begin 0 (.CompareAndAppend none (plainRecord 0 "zero")) :: moves 0 10 ++
  .Begin 0 (.CompareAndAppend (some "zero") (plainRecord 1 "one")) :: moves 1 10 ++
  .Begin 0 (.CompareAndInstallCheckpoint none "zero" ⟨"first",0,"state",[]⟩) :: moves 2 10 ++
  .Begin 0 (.AckCheckpoint "first") :: [.Move 3 [],.Move 3 [0]] ++ moves 3 5 ++
  .Begin 0 .PruneAckedPrefix :: [.Move 4 [],.Move 4 [0],.Move 4 [],.Move 4 [],.Move 4 [0],.Move 4 [],.Move 4 [],.Move 4 [],.Move 4 [0,1]] ++
  moves 4 5

/-- Another process then appends behind the two. -/
def appendedBehind : List JournalAction :=
  coveredFirst ++ .Begin 1 (.CompareAndAppend (some "one") (plainRecord 2 "two")) :: [.Move 5 [],.Move 5 [],.Move 5 [1]] ++ moves 5 5

/-- The appends that were acknowledged, by call. -/
def acknowledgements (journals : Journals) : List (Option (Option String × JournalRecordInput)) := journals.calls.map fun call =>
  match call.request,call.phase with
  | .CompareAndAppend expected_head record,.Returned (.ok _) => some (expected_head,record)
  | _,_ => none

theorem acknowledged_of {journals : Journals} {id : Nat} {expected_head : Option String} {record : JournalRecordInput}
    (listed : (acknowledgements journals)[id]? = some (some (expected_head,record))) :
    Acknowledged journals id expected_head record := by
  unfold acknowledgements at listed
  rw [getElem?_map] at listed
  obtain ⟨call,found,same⟩ := map_eq_some_iff.mp listed
  split at same
  next response asked returned =>
    cases same
    exact ⟨call,response,found,asked,returned⟩
  next => cases same

/-- The appends of two processes with a checkpoint, an acknowledgement and a prune in between are one chain. -/
theorem appends_form_one_chain_behind :
    ∃ journals, Runs journals ∧ Acknowledged journals 1 (some "zero") (plainRecord 1 "one") ∧
      Acknowledged journals 5 (some "one") (plainRecord 2 "two") ∧ OneChain journals := by
  obtain ⟨journals,done,listed⟩ := (any_eq_true _ _).mp (show (runBehind ⟨.empty,[]⟩ appendedBehind).any (fun journals => decide
    (acknowledgements journals = [some (none,plainRecord 0 "zero"),some (some "zero",plainRecord 1 "one"),none,none,none,
      some (some "one",plainRecord 2 "two")])) from by decide +kernel)
  have listed := of_decide_eq_true listed
  have runs : Runs journals := Runs.runBehind .start done
  exact ⟨journals,runs,acknowledged_of (by rw [listed]; rfl),acknowledged_of (by rw [listed]; rfl),appends_form_one_chain journals runs⟩

/-- A process reads the head and pauses before its link. Another appends the same number, covers it with a
    checkpoint, acknowledges it and prunes; then the first goes on. -/
def slowAppender : List JournalAction :=
  .Begin 0 (.CompareAndAppend none (plainRecord 0 "zero")) :: moves 0 10 ++
  .Begin 1 (.CompareAndAppend (some "zero") (plainRecord 1 "late")) :: [.Move 1 [],.Move 1 [],.Move 1 [0],.Move 1 [],.Move 1 []] ++
  .Begin 0 (.CompareAndAppend (some "zero") (plainRecord 1 "one")) :: moves 2 10 ++
  .Begin 0 (.CompareAndInstallCheckpoint none "one" ⟨"first",1,"state",[]⟩) :: moves 3 10 ++
  .Begin 0 (.AckCheckpoint "first") :: [.Move 4 [],.Move 4 [0]] ++ moves 4 5 ++
  .Begin 0 .PruneAckedPrefix :: [.Move 5 [],.Move 5 [0],.Move 5 [],.Move 5 [],.Move 5 [0],.Move 5 [],.Move 5 [],.Move 5 [],.Move 5 [0,1]] ++
  moves 5 5 ++ moves 1 5

/-- The prune has freed the number, so the late link succeeds too: two acknowledged appends have it. -/
theorem freed_number_claimed_again :
    ∃ journals : Journals, Machine.Reached files answerTo (fun _ _ => True) .empty journals ∧
      Acknowledged journals 1 (some "zero") (plainRecord 1 "late") ∧
      Acknowledged journals 2 (some "zero") (plainRecord 1 "one") ∧
        ¬OneChain journals := by
  have reached : ∀ (actions : List JournalAction) (journals : Journals), Machine.Reached files answerTo (fun _ _ => True) .empty journals →
      Machine.Reached files answerTo (fun _ _ => True) .empty (actions.foldl Journals.step journals) := by
    intro actions
    induction actions with
    | nil => exact fun _ reached => reached
    | cons action rest inductive_step => exact fun _ reached => inductive_step _ (.step reached action fun _ _ _ _ _ _ _ _ => trivial)
  have listed : acknowledgements (slowAppender.foldl Journals.step ⟨.empty,[]⟩) = [some (none,plainRecord 0 "zero"),
      some (some "zero",plainRecord 1 "late"),some (some "zero",plainRecord 1 "one"),none,none,none] := by decide +kernel
  have late := acknowledged_of (show (acknowledgements (slowAppender.foldl Journals.step ⟨.empty,[]⟩))[1]? = _ by rw [listed]; rfl)
  have early := acknowledged_of (show (acknowledgements (slowAppender.foldl Journals.step ⟨.empty,[]⟩))[2]? = _ by rw [listed]; rfl)
  refine ⟨_,reached slowAppender ⟨.empty,[]⟩ .start,late,early,fun chain => ?_⟩
  have same := chain.once 1 2 _ _ _ _ late early rfl
  omega

end Deepstrike.Journal
