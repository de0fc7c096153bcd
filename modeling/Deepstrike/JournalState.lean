import Deepstrike.FileJournal

/-!
What a journal keeps of one operation, whatever its entries and its checkpoints carry beyond their place
in the chain.
-/
namespace Deepstrike.Journal

/-- The place of an entry in its chain. -/
class ChainEntry (ρ : Type) where
  step_seq : ρ → Nat
  record_digest : ρ → String
  previous_record_digest : ρ → Option String

instance : ChainEntry JournalEntry :=
  ⟨JournalEntry.step_seq,JournalEntry.record_digest,JournalEntry.previous_record_digest⟩

open ChainEntry

/-- The entries, the installed checkpoints and the outbound envelope of an operation. -/
structure StoredOperation (ρ χ τ : Type) where
  records : List ρ
  checkpoints : List χ
  pruned : Option PrunedAnchor
  outbound_envelope : Option τ
  deriving DecidableEq,Repr

variable {ρ χ τ : Type} [ChainEntry ρ]

/-- One contiguous run of entries links head to tail. -/
def verify_chain : List ρ → Except JournalError Unit
  | previous :: entry :: rest =>
    if step_seq entry ≠ step_seq previous+1 then
      .error (.Integrity s!"journal chain has a gap: step_seq {step_seq entry} follows {step_seq previous}")
    else if previous_record_digest entry ≠ some (record_digest previous) then
      .error (.Integrity "journal chain digest linkage is not continuous")
    else verify_chain (entry :: rest)
  | [_] | [] => .ok ()

namespace StoredOperation

def empty : StoredOperation ρ χ τ := ⟨[],[],none,none⟩

variable (state : StoredOperation ρ χ τ)

def head : Option JournalHead :=
  match state.records.getLast? with
  | some last => some ⟨step_seq last,record_digest last⟩
  | none => state.pruned.map fun pruned => ⟨pruned.through_step_seq,pruned.covered_head⟩

/-- Retained records are dense, so the cursor is an index. -/
def read_from (from_step_seq : Nat) : Except JournalError (List ρ) := do
  let base := state.records.head?.elim 0 step_seq
  let start := min (from_step_seq-base) state.records.length
  let entries := state.records.drop start
  verify_chain entries
  return entries

/-- The entries behind a digest: the first record that has it, else the anchor. -/
def records_after (after_head : String) : Except JournalError (List ρ) :=
  match state.records.find? fun entry => record_digest entry = after_head with
  | some anchor => state.read_from (step_seq anchor+1)
  | none =>
    match state.pruned.filter fun pruned => pruned.covered_head = after_head with
    | some pruned => state.read_from (pruned.through_step_seq+1)
    | none => .error (.Integrity "journal cursor digest names no retained record")

/-- Drop the records that a boundary covers, behind an anchor that only advances. -/
def prune (boundary : InstalledCheckpoint) : StoredOperation ρ χ τ :=
  { state with
    records := state.records.filter fun entry => decide (boundary.through_step_seq < step_seq entry)
    pruned :=
      if state.pruned.all fun pruned => decide (pruned.through_step_seq < boundary.through_step_seq) then
        some ⟨boundary.through_step_seq,boundary.covered_head⟩
      else state.pruned }

end StoredOperation
end Deepstrike.Journal
