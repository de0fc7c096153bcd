import Mathlib.Data.Finset.Card
import Deepstrike.Wire

/-!
The terms of a text: runs of ASCII words, runs of other letters, and the pairs of neighbours in a run of Han
characters. What compaction finds relevant is told by the terms two texts share.
-/
namespace Deepstrike.Lexical
open Wire

/-- The tables of characters: the lower case of one, and of a text whole; letters and digits of any script; blanks.
    And the text that stands for a part that is no tool result: its text, the url of an image or that it is one, that
    it is audio. -/
structure Vocabulary where
  lowercase : Char → List Char
  to_lowercase : String → String
  is_alphanumeric : Char → Bool
  is_whitespace : Char → Bool
  part_text : Json → String

variable (character : Char)

def is_ascii : Bool := character.toNat < 128

def is_ascii_alphanumeric : Bool :=
  ('0' ≤ character && character ≤ '9') || ('A' ≤ character && character ≤ 'Z') || ('a' ≤ character && character ≤ 'z')

def is_ascii_punctuation : Bool :=
  let code := character.toNat
  (33 ≤ code && code ≤ 47) || (58 ≤ code && code ≤ 64) || (91 ≤ code && code ≤ 96) || (123 ≤ code && code ≤ 126)

def is_han : Bool :=
  let code := character.toNat
  (0x3400 ≤ code && code ≤ 0x4DBF) || (0x4E00 ≤ code && code ≤ 0x9FFF) || (0xF900 ≤ code && code ≤ 0xFAFF) ||
    (0x20000 ≤ code && code ≤ 0x3134F)

/-- The runs that stand open, and the terms so far. -/
structure TermScan where
  ascii_run : List Char
  wide_run : List Char
  output : Finset String

namespace TermScan

def flush_ascii (scan : TermScan) : TermScan :=
  { scan with ascii_run := [], output :=
  if 1 < scan.ascii_run.length then insert (String.ofList scan.ascii_run) scan.output else scan.output }

/-- The neighbours in a run. -/
def pairs : List Char → List String
  | first :: second :: rest => String.ofList [first,second] :: pairs (second :: rest)
  | _ => []

def flush_wide (scan : TermScan) : TermScan :=
  match scan.wide_run with
  | [] => scan
  | [one] => { scan with wide_run := [], output := insert (String.ofList [one]) scan.output }
  | run =>
    let output := insert (String.ofList run) scan.output
    { scan with wide_run := [], output := if run.any is_han then (pairs run).foldl (fun output pair => insert pair output) output else output }

def step (vocabulary : Vocabulary) (scan : TermScan) (character : Char) : TermScan :=
  if is_ascii_alphanumeric character || ['_','-','/','.',':'].contains character then
    let scan := scan.flush_wide
    { scan with ascii_run := scan.ascii_run ++ [character] }
  else if !is_ascii character && vocabulary.is_alphanumeric character then
    let scan := scan.flush_ascii
    { scan with wide_run := scan.wide_run ++ [character] }
  else scan.flush_ascii.flush_wide

end TermScan

section
variable (vocabulary : Vocabulary)

def terms (text : String) : Finset String :=
  ((text.toList.flatMap vocabulary.lowercase).foldl (TermScan.step vocabulary) ⟨[],[],∅⟩).flush_ascii.flush_wide.output

/-- Number of terms shared by both sets. -/
def overlap_count (left right : Finset String) : Nat := (left ∩ right).card

/-- Whether a text holds another somewhere. -/
def contains (text pattern : String) : Bool := text.toList.tails.any pattern.toList.isPrefixOf

/-- Whether a text holds another whatever the case, unless that is blank. -/
def contains_folded (text pattern : String) : Bool :=
  !pattern.toList.all vocabulary.is_whitespace && contains (vocabulary.to_lowercase text) (vocabulary.to_lowercase pattern)

/-- A text names a directive when it holds it, or shares two of its terms, or the one it has. -/
def directive_dependency (text directive : String) : Bool :=
  contains_folded vocabulary text directive ||
    (let directive_terms := terms vocabulary directive
    !decide (directive_terms = ∅) && decide (min directive_terms.card 2 ≤ overlap_count (terms vocabulary text) directive_terms))

/-- The words of a text between its blanks. -/
def split_whitespace (text : String) : List (List Char) := (text.toList.splitOnP vocabulary.is_whitespace).filter (!·.isEmpty)

/-- A word without the punctuation around it. -/
def trim_punctuation (word : List Char) : List Char :=
  ((word.dropWhile is_ascii_punctuation).reverse.dropWhile is_ascii_punctuation).reverse

end

end Deepstrike.Lexical
