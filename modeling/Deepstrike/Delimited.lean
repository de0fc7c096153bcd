import Mathlib.Data.List.Basic

/-!
Tokens joined by a separator up to a closer: when no token can be mistaken for another with something
behind it, the joined text gives back the tokens.
-/
namespace Deepstrike.Delimited
open List

variable {α : Type} {separator closer : α}

/-- What may stand behind a token. -/
def Stops (separator closer : α) (rest : List α) : Prop := ∃ tail, rest = separator :: tail ∨ rest = closer :: tail

/-- Tokens that do not begin like the end, and that the text behind them cannot blur. -/
structure Delimits (separator closer : α) (token : List α → Prop) : Prop where
  opens : ∀ first, token first → ∃ head tail, first = head :: tail ∧ head ≠ closer
  splits : ∀ first second rest rest', token first → token second → Stops separator closer rest → Stops separator closer rest' →
    first ++ rest = second ++ rest' → first = second ∧ rest = rest'

/-- The tokens one after another, with the separator in between. -/
def joined (separator : α) : List (List α) → List α
  | [] => []
  | token :: tokens => token ++ tokens.flatMap (separator :: ·)

theorem joined_eq_intercalate (separator : α) (tokens : List (List α)) :
    joined separator tokens = [separator].intercalate tokens := by
  cases tokens with
  | nil => rfl
  | cons token tokens =>
  induction tokens generalizing token with
  | nil => simp [joined]
  | cons second rest ih =>
  rw [intercalate_cons_cons,← ih second]
  simp [joined]

namespace Delimits
variable {token other : List α → Prop}

theorem stops_behind (tokens : List (List α)) (rest : List α) :
    Stops separator closer (tokens.flatMap (separator :: ·) ++ closer :: rest) := by
  cases tokens with
  | nil => exact ⟨rest,.inr rfl⟩
  | cons token tokens => exact ⟨_,.inl rfl⟩

variable {rest rest' : List α}

section
variable (delimits : Delimits separator closer token)
include delimits

private theorem tail_unique (apart : separator ≠ closer) {tokens tokens' : List (List α)}
    (held : ∀ t ∈ tokens, token t) (held' : ∀ t ∈ tokens', token t)
    (same : tokens.flatMap (separator :: ·) ++ closer :: rest = tokens'.flatMap (separator :: ·) ++ closer :: rest') :
    tokens = tokens' ∧ rest = rest' := by
  induction tokens generalizing tokens' with
  | nil =>
    cases tokens' with
    | nil => exact ⟨rfl,(cons.inj same).2⟩
    | cons second others => exact (apart (cons.inj same).1.symm).elim
  | cons first tokens ih =>
  cases tokens' with
  | nil => exact (apart (cons.inj same).1).elim
  | cons second others =>
  rw [flatMap_cons,flatMap_cons,cons_append,cons_append,cons_append,cons_append,append_assoc,append_assoc]
    at same
  obtain ⟨equal,behind⟩ := delimits.splits first second _ _ (held first mem_cons_self) (held' second mem_cons_self)
    (stops_behind tokens rest) (stops_behind others rest') (cons.inj same).2
  obtain ⟨equals,rests⟩ := ih (fun t member => held t (mem_cons_of_mem _ member))
    (fun t member => held' t (mem_cons_of_mem _ member)) behind
  exact ⟨by rw [equal,equals],rests⟩

/-- A joined list of delimited tokens is read in one way only. -/
theorem joined_unique (apart : separator ≠ closer) {tokens tokens' : List (List α)}
    (held : ∀ t ∈ tokens, token t) (held' : ∀ t ∈ tokens', token t)
    (same : joined separator tokens ++ closer :: rest = joined separator tokens' ++ closer :: rest') :
    tokens = tokens' ∧ rest = rest' := by
  cases tokens with
  | nil =>
    cases tokens' with
    | nil => exact ⟨rfl,(cons.inj same).2⟩
    | cons second others =>
    obtain ⟨head,tail,rfl,different⟩ := delimits.opens second (held' second mem_cons_self)
    exact (different (cons.inj same).1.symm).elim
  | cons first tokens =>
  cases tokens' with
  | nil =>
    obtain ⟨head,tail,rfl,different⟩ := delimits.opens first (held first mem_cons_self)
    exact (different (cons.inj same).1).elim
  | cons second others =>
  rw [joined,joined,append_assoc,append_assoc] at same
  obtain ⟨equal,behind⟩ := delimits.splits first second _ _ (held first mem_cons_self) (held' second mem_cons_self)
    (stops_behind tokens rest) (stops_behind others rest') same
  obtain ⟨equals,rests⟩ := delimits.tail_unique apart (fun t member => held t (mem_cons_of_mem _ member))
    (fun t member => held' t (mem_cons_of_mem _ member)) behind
  exact ⟨by rw [equal,equals],rests⟩

theorem mono (fewer : ∀ first, other first → token first) : Delimits separator closer other :=
  ⟨fun first held => delimits.opens first (fewer first held),fun first second rest rest' held held' =>
    delimits.splits first second rest rest' (fewer first held) (fewer second held')⟩

end

theorem of_unique {print : List α → Prop}
    (opens : ∀ first, print first → ∃ head tail, first = head :: tail ∧ head ≠ closer)
    (unique : ∀ first second rest rest', print first → print second → first ++ rest = second ++ rest' →
    first = second ∧ rest = rest') :
    Delimits separator closer print :=
  ⟨opens,fun first second rest rest' held held' _ _ => unique first second rest rest' held held'⟩

private theorem plain_unique {first second : List α} (clean : ∀ char ∈ first, char ≠ separator ∧ char ≠ closer)
    (clean' : ∀ char ∈ second, char ≠ separator ∧ char ≠ closer) (behind : Stops separator closer rest) (behind' : Stops separator closer rest')
    (same : first ++ rest = second ++ rest') : first = second ∧ rest = rest' := by
  have inside : ∀ {char : α}, char ≠ separator ∧ char ≠ closer → ∀ tail, ¬ Stops separator closer (char :: tail) := by
    rintro char ⟨within,before⟩ tail ⟨_,stop | stop⟩
    · exact within (cons.inj stop).1
    · exact before (cons.inj stop).1
  induction first generalizing second with
  | nil =>
    cases second with
    | nil => exact ⟨rfl,same⟩
    | cons head tail =>
    rw [nil_append,cons_append] at same
    exact (inside (clean' head mem_cons_self) _ (same ▸ behind)).elim
  | cons head tail ih =>
  cases second with
  | nil =>
    rw [nil_append,cons_append] at same
    exact (inside (clean head mem_cons_self) _ (same.symm ▸ behind')).elim
  | cons head' tail' =>
  obtain ⟨rfl,same'⟩ := cons.inj same
  obtain ⟨equal,rests⟩ := ih (fun char member => clean char (mem_cons_of_mem _ member))
    (fun char member => clean' char (mem_cons_of_mem _ member)) same'
  exact ⟨by rw [equal],rests⟩

theorem plain : Delimits separator closer fun first => first ≠ [] ∧ ∀ char ∈ first, char ≠ separator ∧
    char ≠ closer := by
  refine ⟨?_,fun first second rest rest' held held' behind behind' same => plain_unique held.2 held'.2 behind behind' same⟩
  rintro first ⟨filled,clean⟩
  obtain ⟨head,tail,rfl⟩ := exists_cons_of_ne_nil filled
  exact ⟨head,tail,rfl,(clean head mem_cons_self).2⟩

/-- Two delimited kinds that start apart are delimited together. -/
theorem or (delimits : Delimits separator closer token) (delimits' : Delimits separator closer other)
    (apart : ∀ first second, token first → other second → first.head? ≠ second.head?) :
    Delimits separator closer fun first => token first ∨ other first := by
  have differ : ∀ first second rest rest', token first → other second → first ++ rest ≠ second ++ rest' := by
    intro first second rest rest' held held' same
    obtain ⟨head,tail,rfl,_⟩ := delimits.opens first held
    obtain ⟨head',tail',rfl,_⟩ := delimits'.opens second held'
    exact apart _ _ held held' (congrArg some (cons.inj same).1)
  refine ⟨?_,?_⟩
  · rintro first (held | held)
    · exact delimits.opens first held
    · exact delimits'.opens first held
  rintro first second rest rest' (held | held) (held' | held') behind behind' same
  · exact delimits.splits first second rest rest' held held' behind behind' same
  · exact (differ first second rest rest' held held' same).elim
  · exact (differ second first rest' rest held' held same.symm).elim
  · exact delimits'.splits first second rest rest' held held' behind behind' same

end Delimits
end Deepstrike.Delimited
