import Deepstrike.Items

/-!
The history in indivisible transactions: a call, the results it waits for and the answer behind them stand in
one unit, which a compaction or a render keeps or drops whole.
-/
namespace Deepstrike.Context
open Wire

/-- The scan of a history: the units that are closed, and what stands open in the last. -/
structure UnitScan where
  boundaries : List (Nat × Nat)
  start : Nat
  open_calls : List CallId
  has_assistant : Bool
  has_tool_transaction : Bool
  trailing_answer_consumed : Bool

namespace UnitScan

def empty : UnitScan := ⟨[],0,[],false,false,false⟩

/-- The calls of a message are open until a result closes them. -/
def note (scan : UnitScan) (message : CoreMessage) : UnitScan :=
  let opened := scan.open_calls ++ message.tool_calls.map ToolCall.id
  { scan with
    has_assistant := scan.has_assistant || message.role = .Assistant
    has_tool_transaction := scan.has_tool_transaction || !message.tool_calls.isEmpty
    open_calls :=
      match message.content with
      | .Text _ => opened
      | .Parts parts => parts.foldl (fun calls part =>
        match part with
        | .ToolResult call_id _ _ _ => calls.filter (· ≠ call_id)
        | .Other _ => calls) opened }

def step (scan : UnitScan) (index : Nat) (message : CoreMessage) : UnitScan :=
  let is_trailing_answer := scan.has_tool_transaction && !scan.trailing_answer_consumed && scan.open_calls.isEmpty
    && message.role = .Assistant && message.tool_calls.isEmpty
  let starts_new_user_unit := message.role = .User && scan.open_calls.isEmpty
  let starts_new_assistant_unit := message.role = .Assistant && scan.open_calls.isEmpty && !is_trailing_answer && scan.has_assistant
  let starts_new_orphan_tool_unit := message.role = .Tool && scan.open_calls.isEmpty && scan.start < index
  let turned :=
    if scan.start < index && (starts_new_user_unit || starts_new_assistant_unit || starts_new_orphan_tool_unit) then
      { scan with
        boundaries := scan.boundaries ++ [(scan.start,index)]
        start := index
        has_assistant := false
        has_tool_transaction := false
        trailing_answer_consumed := false }
    else if is_trailing_answer then { scan with trailing_answer_consumed := true }
    else scan
  turned.note message

def run (scan : UnitScan) : Nat → List CoreMessage → UnitScan
  | _,[] => scan
  | index,message :: rest => (scan.step index message).run (index+1) rest

end UnitScan

def unit_boundaries (messages : List CoreMessage) : List (Nat × Nat) :=
  if messages.isEmpty then []
  else
    let scan := UnitScan.empty.run 0 messages
    scan.boundaries ++ [(scan.start,messages.length)]

/-- Ranges that follow one another from a start to a stop, none of them empty. -/
def Tiles : Nat → List (Nat × Nat) → Nat → Prop
  | start,[],stop => start = stop
  | start,range :: rest,stop => range.1 = start ∧ range.1 < range.2 ∧ Tiles range.2 rest stop

variable {ranges : List (Nat × Nat)} {start stop : Nat}

private theorem Tiles.concat {middle : Nat} (tiles : Tiles start ranges middle) (more : middle < stop) :
    Tiles start (ranges ++ [(middle,stop)]) stop := by
  induction ranges generalizing start with
  | nil =>
    obtain rfl : start = middle := tiles
    exact ⟨rfl,more,rfl⟩
  | cons range rest ih => exact ⟨tiles.1,tiles.2.1,ih tiles.2.2⟩

theorem Tiles.le (tiles : Tiles start ranges stop) : start ≤ stop := by
  induction ranges generalizing start with
  | nil => exact Nat.le_of_eq tiles
  | cons range rest ih => exact tiles.1 ▸ Nat.le_of_lt (Nat.lt_of_lt_of_le tiles.2.1 (ih tiles.2.2))

theorem Tiles.within (tiles : Tiles start ranges stop) {range : Nat × Nat} (member : range ∈ ranges) :
    range.2 ≤ stop := by
  induction ranges generalizing start with
  | nil => cases member
  | cons first rest ih =>
  rcases List.mem_cons.mp member with rfl | later
  · exact tiles.2.2.le
  · exact ih tiles.2.2 later

theorem Tiles.of_concat {last : Nat × Nat} (tiles : Tiles start (ranges ++ [last]) stop) :
    Tiles start ranges last.1 ∧ last.1 < last.2 ∧ last.2 = stop := by
  induction ranges generalizing start with
  | nil => exact ⟨tiles.1.symm,tiles.2.1,tiles.2.2⟩
  | cons range rest ih =>
  obtain ⟨before,nonempty,ends⟩ := ih tiles.2.2
  exact ⟨⟨tiles.1,tiles.2.1,before⟩,nonempty,ends⟩

namespace UnitScan

/-- The closed units reach to the start of the open one, which lies before the next message. -/
structure Sound (scan : UnitScan) (index : Nat) : Prop where
  tiles : Tiles 0 scan.boundaries scan.start
  behind : scan.start < index ∨ index = 0 ∧ scan.start = 0

/-- One more message keeps a scan sound. -/
theorem Sound.step {scan : UnitScan} {index : Nat} (sound : scan.Sound index) (message : CoreMessage) :
    (scan.step index message).Sound (index+1) := by
  obtain ⟨tiles,behind⟩ := sound
  unfold UnitScan.step note
  dsimp only
  split
  next turned =>
    simp only [Bool.and_eq_true,decide_eq_true_eq] at turned
    exact ⟨tiles.concat turned.1,.inl (Nat.lt_succ_self index)⟩
  next =>
  have before : scan.start < index+1 := by omega
  split
  · exact ⟨tiles,.inl before⟩
  · exact ⟨tiles,.inl before⟩

theorem Sound.run {scan : UnitScan} {index : Nat} (sound : scan.Sound index) (messages : List CoreMessage) :
    (scan.run index messages).Sound (index+messages.length) := by
  induction messages generalizing scan index with
  | nil => exact sound
  | cons message rest ih =>
  have later := ih (sound.step message)
  rwa [Nat.add_right_comm,Nat.add_assoc index] at later

end UnitScan

/-- The units tile the history from end to end. -/
theorem unit_boundaries_tiles (messages : List CoreMessage) : Tiles 0 (unit_boundaries messages) messages.length := by
  unfold unit_boundaries
  split
  next nothing =>
    rw [List.isEmpty_iff] at nothing
    rw [nothing]
    rfl
  next some_ =>
  have empty : UnitScan.empty.Sound 0 := ⟨rfl,.inr ⟨rfl,rfl⟩⟩
  have sound := empty.run messages
  have length : 0 < messages.length := List.length_pos_iff.mpr (by simpa using some_)
  refine sound.tiles.concat ?_
  rcases sound.behind with before | ⟨nothing,_⟩
  · omega
  · omega

end Deepstrike.Context
