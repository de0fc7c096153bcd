import Deepstrike.Values

/-!
The compact text of a JSON value, and a parser of JSON text with a bound on how deep containers nest: the parser
gives back every printed value within its bound, and no other.
-/
namespace Deepstrike.Texts
open Values List Json Option

/-- The string tokens of JSON: how a string is quoted and escaped, and the reader that undoes it. -/
structure Strings where
  print : String → List Char
  parse : List Char → Option (String × List Char)
  quoted : ∀ text, ∃ rest, print text = '"' :: rest
  inverts : ∀ text rest, parse (print text ++ rest) = some (text,rest)

/-- The shortest decimal form. -/
def printInteger (value : Int) : List Char :=
  match value with
  | .ofNat value => Nat.toDigits 10 value
  | .negSucc value => '-' :: Nat.toDigits 10 (value+1)

def separated (parts : List (List Char)) : List Char := [','].intercalate parts

section Print
variable (strings : Strings)

mutual

def print : Json → List Char
  | .null => "null".toList
  | .bool true => "true".toList
  | .bool false => "false".toList
  | .number value => printInteger value
  | .string text => strings.print text
  | .array items => '[' :: (separated (printItems items) ++ [']'])
  | .object fields => '\x7b' :: (separated (printFields fields) ++ ['}'])

def printItems : List Json → List (List Char)
  | [] => []
  | item :: rest => print item :: printItems rest

def printFields : List (String × Json) → List (List Char)
  | [] => []
  | (key,value) :: rest => (strings.print key ++ ':' :: print value) :: printFields rest

end

theorem printItems_eq (items : List Json) : printItems strings items = items.map (print strings) := by
  induction items with
  | nil => rfl
  | cons item rest ih => rw [printItems,ih,map_cons]

theorem printFields_eq (fields : List (String × Json)) :
    printFields strings fields = fields.map fun field => strings.print field.1 ++ ':' :: print strings field.2 := by
  induction fields with
  | nil => rfl
  | cons field rest ih => rw [printFields,ih,map_cons]

end Print

/-- What a parser reads off a text, with what is left of it. -/
abbrev Parser (α : Type) := List Char → Option (α × List Char)

def isSpace (char : Char) : Bool := char == ' ' || char == '\n' || char == '\t' || char == '\r'

def skip (input : List Char) : List Char := input.dropWhile isSpace

/-- Unsigned digits: no leading zero, and nothing behind them that would make a float. -/
def parseNatural : Parser Nat := fun input =>
  let digits := input.takeWhile Char.isDigit
  let rest := input.dropWhile Char.isDigit
  if digits.isEmpty || (1 < digits.length && digits.head? == some '0') || rest.head?.any
    (fun char => char == '.' || char == 'e' || char == 'E') then none
  else some (Nat.ofDigitChars 10 digits 0,rest)

/-- An integer. A minus before zero makes a float. -/
def parseInteger : Parser Int
  | '-' :: rest => (parseNatural rest).bind fun (value,rest) => if value = 0 then none else some (-(value : Int),rest)
  | input => (parseNatural input).map fun (value,rest) => ((value : Int),rest)

/-- The elements of a container that is not empty, up to its closing mark. -/
def parseMany {α : Type} (element : Parser α) (close : Char) : Nat → Parser (List α)
  | 0,_ => none
  | fuel+1,input =>
    (element input).bind fun (first,rest) =>
      match skip rest with
      | [] => none
      | mark :: rest =>
        if mark = ',' then (parseMany element close fuel rest).map fun (others,rest) => (first :: others,rest)
        else if mark = close then some ([first],rest)
        else none

def parseSequence {α : Type} (element : Parser α) (close : Char) : Parser (List α) := fun input =>
  match skip input with
  | [] => none
  | mark :: rest => if mark = close then some ([],rest) else parseMany element close (input.length+1) input

def parseMember (strings : Strings) (value : Parser Json) : Parser (String × Json) := fun input =>
  (strings.parse (skip input)).bind fun (key,rest) =>
    match skip rest with
    | [] => none
    | mark :: rest => if mark = ':' then (value rest).map fun (held,rest) => ((key,held),rest) else none

/-- A later field of a key replaces an earlier one. -/
def collect (members : List (String × Json)) : List (String × Json) :=
  members.foldl (fun fields member => fields.filter (fun field => field.1 != member.1) ++ [member]) []

def expect (word : List Char) (value : Json) : Parser Json := fun input =>
  if input.take word.length = word then some (value,input.drop word.length) else none

/-- A value whose containers hold what the inner parser reads; without one no container may open. -/
def parseWith (strings : Strings) (inner : Option (Parser Json)) : Parser Json := fun input =>
  match skip input with
  | [] => none
  | mark :: rest =>
    if mark = 'n' then expect "ull".toList .null rest
    else if mark = 't' then expect "rue".toList (.bool true) rest
    else if mark = 'f' then expect "alse".toList (.bool false) rest
    else if mark = '"' then (strings.parse (mark :: rest)).map fun (text,rest) => (.string text,rest)
    else if mark = '[' then inner.bind fun value => (parseSequence value ']' rest).map fun (items,rest) => (.array items,rest)
    else if mark = '\x7b' then
      inner.bind fun value => (parseSequence (parseMember strings value) '}' rest).map fun (fields,rest) => (.object (collect fields),rest)
    else (parseInteger (mark :: rest)).map fun (value,rest) => (.number value,rest)

/-- A value within a recursion limit. A container that would use up the limit is refused. -/
def parseValue (strings : Strings) : Nat → Parser Json
  | 0 => parseWith strings none
  | limit+1 => parseWith strings (if limit = 0 then none else some (parseValue strings limit))

/-- A whole text is one value, with space around it. -/
def parse (strings : Strings) (limit : Nat) (input : List Char) : Option Json :=
  (parseValue strings limit input).bind fun (value,rest) => if (skip rest).isEmpty then some value else none

/-- What may stand behind a value: nothing, a comma or a closing mark. -/
def Ended (rest : List Char) : Prop := ∀ mark ∈ rest.head?, mark = ',' ∨ mark = ']' ∨ mark = '}'

theorem skip_cons {mark : Char} (rest : List Char) (solid : isSpace mark = false) :
    skip (mark :: rest) = mark :: rest := by
  simp [skip,solid]

section Integers

theorem toDigits_isDigit (value : Nat) : ∀ char ∈ Nat.toDigits 10 value, char.isDigit = true :=
  fun _ held => Nat.isDigit_of_mem_toDigits (by decide) (by decide) held

private theorem digitChar_injective : ∀ left < 16, ∀ right < 16, Nat.digitChar left = Nat.digitChar right → left = right := by
  decide

/-- A number is known by its digits, in any base that has digits of its own. -/
theorem toDigits_injective {base : Nat} (many : 1 < base) (few : base ≤ 16) {left right : Nat}
    (same : Nat.toDigits base left = Nat.toDigits base right) : left = right := by
  induction left using Nat.strongRecOn generalizing right with
  | ind left ih =>
  have filled : ∀ value, Nat.toDigits base value ≠ [] := fun value => Nat.toDigits_ne_nil
  have below : ∀ value, value%base < 16 := fun value => (Nat.mod_lt value (by omega)).trans_le few
  rw [Nat.toDigits_eq_if many,Nat.toDigits_eq_if (n := right) many] at same
  split at same
  next small =>
    split at same
    next small' =>
      exact digitChar_injective left (by omega) right (by omega) (singleton_inj.mp same)
    next large' =>
    have split : [] ++ [Nat.digitChar left] = Nat.toDigits base (right/base) ++ [Nat.digitChar (right%base)] := same
    exact absurd (append_inj' split rfl).1.symm (filled _)
  next large =>
  split at same
  next small' =>
    have split : Nat.toDigits base (left/base) ++ [Nat.digitChar (left%base)] = [] ++ [Nat.digitChar right] := same
    exact absurd (append_inj' split rfl).1 (filled _)
  next large' =>
  obtain ⟨front,last⟩ := append_inj' same rfl
  have quotient := ih (left/base) (Nat.div_lt_self (by omega) many) front
  have remainder := digitChar_injective _ (below left) _ (below right) (singleton_inj.mp last)
  rw [← Nat.div_add_mod left base,← Nat.div_add_mod right base,quotient,remainder]

theorem toDigits_head (value : Nat) (positive : 0 < value) : (Nat.toDigits 10 value).head? ≠ some '0' := by
  induction value using Nat.strong_induction_on with
  | _ value ih =>
  by_cases small : value < 10
  · rw [Nat.toDigits_of_lt_base small]
    have digits : ∀ digit : Fin 10, 0 < digit.val → [digit.val.digitChar].head? ≠ some '0' := by decide
    exact digits ⟨value,small⟩ positive
  · rw [Nat.toDigits_of_base_le (by decide) (Nat.not_lt.mp small),head?_append_of_ne_nil _ Nat.toDigits_ne_nil]
    exact ih (value/10) (by omega) (by omega)

variable {rest : List Char}

private theorem parseNatural_print (value : Nat) (ended : Ended rest) : parseNatural (Nat.toDigits 10 value ++ rest) = some (value,rest) := by
  have stops : ∀ mark ∈ rest.head?, mark.isDigit = false ∧ (mark == '.' || mark == 'e' || mark == 'E') = false := by
    intro mark held
    obtain rfl | rfl | rfl := ended mark held <;> decide
  have digits : (Nat.toDigits 10 value ++ rest).takeWhile Char.isDigit = Nat.toDigits 10 value := by
    rw [takeWhile_append_of_pos (toDigits_isDigit value)]
    cases rest with
    | nil => simp
    | cons mark rest => simp [(stops mark (by simp)).1]
  have remains : (Nat.toDigits 10 value ++ rest).dropWhile Char.isDigit = rest := by
    rw [dropWhile_append_of_pos (toDigits_isDigit value)]
    cases rest with
    | nil => rfl
    | cons mark rest => simp [(stops mark (by simp)).1]
  have shown : (Nat.toDigits 10 value).isEmpty = false := by
    simp [Nat.toDigits_ne_nil]
  have unpadded : (1 < (Nat.toDigits 10 value).length && (Nat.toDigits 10 value).head? == some '0') = false := by
    cases value with
    | zero => decide
    | succ value => simp [toDigits_head (value+1) (Nat.succ_pos value)]
  have integral : rest.head?.any (fun char => char == '.' || char == 'e' || char == 'E') = false := by
    cases rest with
    | nil => rfl
    | cons mark rest => exact (stops mark (by simp)).2
  unfold parseNatural
  simp only [digits,remains,shown,unpadded,integral,Bool.or_self,Bool.false_eq_true,if_false,Nat.ofDigitChars_ten_toDigits]

private theorem parseInteger_print (value : Int) (ended : Ended rest) : parseInteger (printInteger value ++ rest) = some (value,rest) := by
  cases value with
  | ofNat value =>
    have read := parseNatural_print value ended
    show parseInteger (Nat.toDigits 10 value ++ rest) = some ((value : Int),rest)
    cases shown : Nat.toDigits 10 value with
    | nil => exact absurd shown Nat.toDigits_ne_nil
    | cons digit digits =>
    have numeric := toDigits_isDigit value digit (by simp [shown])
    rw [shown] at read
    have other : digit ≠ '-' := by
      rintro rfl
      cases numeric
    unfold parseInteger
    split
    next rest sign => exact absurd (cons.inj sign).1 other
    next => rw [read]; rfl
  | negSucc value =>
  have read := parseNatural_print (value+1) ended
  show (parseNatural (Nat.toDigits 10 (value+1) ++ rest)).bind _ = _
  rw [read]
  simp [Int.negSucc_eq]

end Integers

private theorem separated_cons (first second : List Char) (rest : List (List Char)) :
    separated (first :: second :: rest) = first ++ ',' :: separated (second :: rest) := by
  simp [separated,intercalate]

private theorem length_le_separated (parts : List (List Char)) : parts.length ≤ (separated parts).length+1 := by
  induction parts with
  | nil => exact Nat.zero_le _
  | cons first rest ih =>
  cases rest with
  | nil => simp
  | cons second rest =>
  rw [separated_cons]
  simp only [length_cons,length_append] at ih ⊢
  omega

section Sequences
variable {α β : Type} {element : Parser α} {close : Char} {cells : List β} {text : β → List Char} {value : β → α} {good : β → Bool}

/-- Elements that are read one by one are read in sequence; one that is refused refuses the sequence. -/
theorem parseMany_print (marks : close = ']' ∨ close = '}')
    (reads : ∀ cell ∈ cells, ∀ rest, Ended rest →
    element (text cell ++ rest) = if good cell then some (value cell,rest) else none)
    (nonempty : cells ≠ []) {fuel : Nat} (enough : cells.length ≤ fuel) (rest : List Char) :
    parseMany element close fuel (separated (cells.map text) ++ close :: rest) =
      if cells.all good then some (cells.map value,rest) else none := by
  have closing : isSpace close = false ∧ close ≠ ',' := by
    obtain rfl | rfl := marks <;> exact ⟨rfl,by decide⟩
  induction cells generalizing fuel with
  | nil => exact absurd rfl nonempty
  | cons cell more ih =>
  cases fuel with
  | zero => simp at enough
  | succ fuel =>
  have reads_cell := reads cell mem_cons_self
  cases more with
  | nil =>
    have ended : Ended (close :: rest) := by
      intro mark held
      cases held
      exact .inr marks
    have shown : separated ([cell].map text) = text cell := by simp [separated,intercalate]
    rw [shown,parseMany,reads_cell _ ended]
    cases fine : good cell with
    | true => simp [fine,skip_cons rest closing.1,closing.2]
    | false => simp [fine]
  | cons next more =>
  have shown : separated ((cell :: next :: more).map text) ++ close :: rest =
      text cell ++ (',' :: (separated ((next :: more).map text) ++ close :: rest)) := by
    rw [map_cons,map_cons,separated_cons,append_assoc]
    rfl
  have ended : Ended (',' :: (separated ((next :: more).map text) ++ close :: rest)) := by
    intro mark held
    cases held
    exact .inl rfl
  rw [shown,parseMany,reads_cell _ ended]
  have others := ih (fun cell held => reads cell (mem_cons_of_mem _ held)) (by simp) (Nat.le_of_succ_le_succ enough)
  cases fine : good cell with
  | true =>
    have all_eq : (cell :: next :: more).all good = (next :: more).all good := by simp [fine]
    rw [all_eq]
    simp only [if_true,bind_some,skip_cons _ (show isSpace ',' = false from rfl),others]
    by_cases all_fine : (next :: more).all good = true
    · rw [if_pos all_fine,if_pos all_fine]
      rfl
    · rw [if_neg all_fine,if_neg all_fine]
      rfl
  | false => simp [fine]

private theorem parseSequence_print (value : β → α) (marks : close = ']' ∨ close = '}')
    (reads : ∀ cell ∈ cells, ∀ rest, Ended rest → element (text cell ++ rest) = if good cell then some (value cell,rest) else none)
    (starts : ∀ cell ∈ cells, ∃ mark tail, text cell = mark :: tail ∧ isSpace mark = false ∧ mark ≠ close) (rest : List Char) :
    parseSequence element close (separated (cells.map text) ++ close :: rest) = if cells.all good then some (cells.map value,rest) else none := by
  have closing : isSpace close = false := by
    obtain rfl | rfl := marks <;> rfl
  cases cells with
  | nil =>
    show parseSequence element close (close :: rest) = some ([],rest)
    rw [parseSequence,skip_cons rest closing]
    simp
  | cons cell more =>
  have enough : (cell :: more).length ≤ (separated ((cell :: more).map text) ++ close :: rest).length+1 := by
    have least := length_le_separated ((cell :: more).map text)
    rw [length_map] at least
    simp only [length_append,length_cons] at least ⊢
    omega
  have many := parseMany_print marks reads (cons_ne_nil cell more) enough rest
  obtain ⟨mark,tail,shown,solid,other⟩ := starts cell mem_cons_self
  have opens : ∃ tail, separated ((cell :: more).map text) ++ close :: rest = mark :: tail := by
    cases more with
    | nil => exact ⟨tail ++ close :: rest,by simp [separated,intercalate,shown]⟩
    | cons next more =>
    rw [map_cons,map_cons,separated_cons,shown]
    exact ⟨_,rfl⟩
  obtain ⟨tail,opens⟩ := opens
  rw [parseSequence]
  rw [opens] at many ⊢
  rw [skip_cons tail solid]
  simp only [if_neg other]
  exact many

end Sequences

private theorem collect_of_nodup {members : List (String × Json)} (distinct : (members.map Prod.fst).Nodup) : collect members = members := by
  have kept : ∀ (rest before : List (String × Json)), ((before ++ rest).map Prod.fst).Nodup →
      rest.foldl (fun fields member => fields.filter (fun field => field.1 != member.1) ++ [member]) before = before ++ rest := by
    intro rest
    induction rest with
    | nil => simp
    | cons member rest ih =>
    intro before distinct
    have fresh : ∀ field ∈ before, (field.1 != member.1) = true := by
      intro field held
      rw [map_append] at distinct
      have apart := (nodup_append.mp distinct).2.2 field.1 (mem_map_of_mem held) member.1 (by simp)
      simpa using apart
    rw [foldl_cons,filter_eq_self.mpr fresh,ih _ (by simpa using distinct)]
    simp
  simpa [collect] using kept members [] distinct

section Values
variable (strings : Strings)

/-- The text of a value starts with a mark of its own. -/
theorem print_starts (value : Json) : ∃ mark tail, print strings value = mark :: tail ∧ isSpace mark = false ∧
    mark ≠ ']' ∧ mark ≠ '}' := by
  cases value with
  | null => exact ⟨_,_,rfl,by decide⟩
  | bool value => cases value <;> exact ⟨_,_,rfl,by decide⟩
  | number value =>
    cases value with
    | ofNat value =>
      cases shown : Nat.toDigits 10 value with
      | nil => exact absurd shown Nat.toDigits_ne_nil
      | cons digit digits =>
      have numeric := toDigits_isDigit value digit (by simp [shown])
      refine ⟨digit,digits,shown,?_,?_,?_⟩
      · cases space : isSpace digit with
        | false => rfl
        | true =>
        simp only [isSpace,Bool.or_eq_true,beq_iff_eq] at space
        obtain ((rfl | rfl) | rfl) | rfl := space <;> cases numeric
      · rintro rfl
        cases numeric
      · rintro rfl
        cases numeric
    | negSucc value => exact ⟨'-',_,rfl,by decide⟩
  | string text =>
    obtain ⟨rest,shown⟩ := strings.quoted text
    exact ⟨'"',rest,shown,by decide⟩
  | array items => exact ⟨'[',_,rfl,by decide⟩
  | object fields => exact ⟨'\x7b',_,rfl,by decide⟩

/-- A text that starts with a mark of its own is read by that mark. -/
private theorem parseWith_marked (inner : Option (Parser Json)) {mark : Char} (tail : List Char) (solid : isSpace mark = false) :
    parseWith strings inner (mark :: tail) =
      if mark = 'n' then expect "ull".toList .null tail
      else if mark = 't' then expect "rue".toList (.bool true) tail
      else if mark = 'f' then expect "alse".toList (.bool false) tail
      else if mark = '"' then (strings.parse (mark :: tail)).map fun (text,rest) => (.string text,rest)
      else if mark = '[' then inner.bind fun value => (parseSequence value ']' tail).map fun (items,rest) => (.array items,rest)
      else if mark = '\x7b' then
        inner.bind fun value => (parseSequence (parseMember strings value) '}' tail).map fun (fields,rest) => (.object (collect fields),rest)
      else (parseInteger (mark :: tail)).map fun (value,rest) => (.number value,rest) := by
  rw [parseWith,skip_cons tail solid]

variable {rest : List Char}

private theorem parseWith_number (inner : Option (Parser Json)) (value : Int) (ended : Ended rest) :
    parseWith strings inner (printInteger value ++ rest) = some (.number value,rest) := by
  have read := parseInteger_print value ended
  obtain ⟨mark,tail,shown,solid,_,_⟩ := print_starts strings (.number value)
  have printed : printInteger value = mark :: tail := shown
  have numeric : mark = '-' ∨ mark.isDigit = true := by
    cases value with
    | ofNat value => exact .inr (toDigits_isDigit value mark (by rw [show Nat.toDigits 10 value = mark :: tail from printed]; simp))
    | negSucc value => exact .inl (cons.inj printed).1.symm
  have apart : ∀ other : Char, other ≠ '-' → other.isDigit = false → mark ≠ other := by
    rintro other sign letter rfl
    obtain same | digit := numeric
    · exact sign same
    · rw [letter] at digit
      cases digit
  rw [printed] at read ⊢
  rw [cons_append,parseWith_marked strings inner (tail ++ rest) solid,if_neg (apart 'n' (by decide) rfl),if_neg (apart 't' (by decide) rfl),
    if_neg (apart 'f' (by decide) rfl),if_neg (apart '"' (by decide) rfl),if_neg (apart '[' (by decide) rfl),if_neg (apart '\x7b' (by decide) rfl),
    ← cons_append,read]
  rfl

private theorem parseMember_print {value : Parser Json} {limit : Nat} {field : String × Json}
    (reads : ∀ rest, Ended rest → value (print strings field.2 ++ rest) = if field.2.containers ≤ limit then
    some (field.2,rest) else none) (ended : Ended rest) :
    parseMember strings value ((strings.print field.1 ++ ':' :: print strings field.2) ++ rest) =
      if field.2.containers ≤ limit then some (field,rest) else none := by
  obtain ⟨tail,shown⟩ := strings.quoted field.1
  have skipped : skip ((strings.print field.1 ++ ':' :: print strings field.2) ++ rest) =
      strings.print field.1 ++ (':' :: (print strings field.2 ++ rest)) := by
    rw [append_assoc,cons_append,shown,cons_append]
    exact skip_cons _ rfl
  rw [parseMember,skipped,strings.inverts]
  simp only [bind_some,skip_cons _ (show isSpace ':' = false from rfl),reads rest ended]
  by_cases within_limit : field.2.containers ≤ limit
  · rw [if_pos within_limit,if_pos within_limit]
    rfl
  · rw [if_neg within_limit,if_neg within_limit]
    rfl

/-- Printed values come back within the limit, and beyond it nothing does. -/
theorem parseValue_print {value : Json} (proper : value.Proper) (limit : Nat) (ended : Ended rest) :
    parseValue strings (limit+1) (print strings value ++ rest) = if value.containers ≤ limit then some (value,rest)
    else none := by
  induction value using induction generalizing limit rest with
  | null =>
    rw [parseValue,if_pos (show null.containers ≤ limit by simp [containers])]
    exact parseWith_marked strings _ ("ull".toList ++ rest) rfl
  | bool value =>
    rw [parseValue,if_pos (show (bool value).containers ≤ limit by simp [containers])]
    cases value with
    | true => exact parseWith_marked strings _ ("rue".toList ++ rest) rfl
    | false => exact parseWith_marked strings _ ("alse".toList ++ rest) rfl
  | number value =>
    rw [parseValue,if_pos (show (number value).containers ≤ limit by simp [containers]),print]
    exact parseWith_number strings _ value ended
  | string text =>
    obtain ⟨tail,shown⟩ := strings.quoted text
    have read := strings.inverts text rest
    rw [shown,cons_append] at read
    rw [parseValue,if_pos (show (string text).containers ≤ limit by simp [containers]),print,shown,cons_append,
      parseWith_marked strings _ (tail ++ rest) rfl,
      if_neg (by decide),if_neg (by decide),if_neg (by decide),if_pos rfl,read]
    rfl
  | array items ih =>
    rw [Json.Proper,properItems_iff] at proper
    have shown : print strings (.array items) ++ rest = '[' :: (separated (items.map (print strings)) ++ ']' :: rest) := by
      rw [print,printItems_eq]
      simp
    rw [shown,parseValue,parseWith_marked strings _ _ rfl,if_neg (by decide),if_neg (by decide),if_neg (by decide),if_neg (by decide),if_pos rfl]
    cases limit with
    | zero => simp [containers]
    | succ limit =>
    have reads : ∀ item ∈ items, ∀ rest, Ended rest → parseValue strings (limit+1) (print strings item ++ rest) =
        if decide (item.containers ≤ limit) then some (item,rest) else none := by
      intro item held rest ended
      simpa using ih item held (proper item held) limit ended
    have starts : ∀ item ∈ items, ∃ mark tail, print strings item = mark :: tail ∧ isSpace mark = false ∧ mark ≠ ']' := by
      intro item _
      obtain ⟨mark,tail,shown,solid,other,_⟩ := print_starts strings item
      exact ⟨mark,tail,shown,solid,other⟩
    have read := parseSequence_print id (.inl rfl) reads starts rest
    have within_limit : (items.all fun item => decide (item.containers ≤ limit)) = decide ((array items).containers ≤ limit+1) := by
      rw [containers,Bool.eq_iff_iff]
      simp [containersItems_le]
    rw [if_neg (Nat.succ_ne_zero limit),bind_some,read,within_limit]
    by_cases fits : (array items).containers ≤ limit+1 <;> simp [fits]
  | object fields ih =>
  rw [Json.Proper,properFields_iff] at proper
  have shown : print strings (.object fields) ++ rest =
      '\x7b' :: (separated (fields.map fun field => strings.print field.1 ++ ':' :: print strings field.2) ++ '}' :: rest) := by
    rw [print,printFields_eq]
    simp
  rw [shown,parseValue,parseWith_marked strings _ _ rfl,if_neg (by decide),if_neg (by decide),if_neg (by decide),if_neg (by decide),
    if_neg (by decide),if_pos rfl]
  cases limit with
  | zero => simp [containers]
  | succ limit =>
  have reads : ∀ field ∈ fields, ∀ rest, Ended rest →
      parseMember strings (parseValue strings (limit+1)) ((strings.print field.1 ++ ':' :: print strings field.2) ++ rest) =
      if decide (field.2.containers ≤ limit) then some (field,rest) else none := by
    intro field held rest ended
    have read := parseMember_print strings (fun rest ended => ih field held (proper.2 field held) limit ended) ended
    simpa using read
  have starts : ∀ field ∈ fields, ∃ mark tail, strings.print field.1 ++ ':' :: print strings field.2 = mark :: tail ∧
    isSpace mark = false ∧ mark ≠ '}' := by
    intro field _
    obtain ⟨tail,shown⟩ := strings.quoted field.1
    exact ⟨'"',_,by rw [shown]; rfl,rfl,by decide⟩
  have read := parseSequence_print id (.inr rfl) reads starts rest
  have within_limit : (fields.all fun field => decide (field.2.containers ≤ limit)) = decide ((object fields).containers ≤ limit+1) := by
    rw [containers,Bool.eq_iff_iff]
    simp [containersFields_le]
  rw [if_neg (Nat.succ_ne_zero limit),bind_some,read,within_limit]
  by_cases fits : (object fields).containers ≤ limit+1 <;> simp [fits,collect_of_nodup proper.1]

/-- A printed value is read back if it nests within the limit, else refused. -/
theorem parse_print {value : Json} (proper : value.Proper) (limit : Nat) :
    parse strings (limit+1) (print strings value) = if value.containers ≤ limit then some value else none := by
  have ended : Ended [] := by rintro mark ⟨⟩
  have read := parseValue_print strings proper limit ended
  rw [append_nil] at read
  rw [parse,read]
  by_cases fits : value.containers ≤ limit
  · rw [if_pos fits,if_pos fits]
    rfl
  · rw [if_neg fits,if_neg fits]
    rfl

end Values

section Escapes

/-- Quotes, backslashes and control characters are escaped, the rest stands for itself. -/
def escape (char : Char) : List Char :=
  if char = '"' then ['\\','"']
  else if char = '\\' then ['\\','\\']
  else if char.toNat = 8 then ['\\','b']
  else if char.toNat = 9 then ['\\','t']
  else if char.toNat = 10 then ['\\','n']
  else if char.toNat = 12 then ['\\','f']
  else if char.toNat = 13 then ['\\','r']
  else if char.toNat < 32 then ['\\','u','0','0',Nat.digitChar (char.toNat/16),Nat.digitChar (char.toNat%16)]
  else [char]

def hexValue (char : Char) : Option Nat :=
  if char.isDigit then some (char.toNat-48)
  else if 97 ≤ char.toNat ∧ char.toNat ≤ 102 then some (char.toNat-87)
  else if 65 ≤ char.toNat ∧ char.toNat ≤ 70 then some (char.toNat-55)
  else none

/-- The character a mark behind a backslash stands for. -/
def marked (mark : Char) : Option Char :=
  if mark = '"' ∨ mark = '\\' ∨ mark = '/' then some mark
  else if mark = 'b' then some (Char.ofNat 8)
  else if mark = 't' then some (Char.ofNat 9)
  else if mark = 'n' then some (Char.ofNat 10)
  else if mark = 'f' then some (Char.ofNat 12)
  else if mark = 'r' then some (Char.ofNat 13)
  else none

/-- Four hexadecimal digits. Surrogates, which no text escapes, are not read. -/
def hexChar (first second third fourth : Char) : Option Char := do
  let code := (((← hexValue first)*16+(← hexValue second))*16+(← hexValue third))*16+(← hexValue fourth)
  if 0xD800 ≤ code ∧ code ≤ 0xDFFF then none else some (Char.ofNat code)

/-- The rest of a string token, behind its opening quote. -/
def unescape : List Char → Option (List Char × List Char)
  | [] => none
  | char :: rest =>
    if char = '"' then some ([],rest)
    else if char = '\\' then
      match rest with
      | [] => none
      | mark :: rest =>
        if mark = 'u' then
          match rest with
          | first :: second :: third :: fourth :: rest =>
            (hexChar first second third fourth).bind fun char => (unescape rest).map fun (text,rest) => (char :: text,rest)
          | _ => none
        else (marked mark).bind fun char => (unescape rest).map fun (text,rest) => (char :: text,rest)
    else if char.toNat < 32 then none
    else (unescape rest).map fun (text,rest) => (char :: text,rest)

theorem hexValue_digitChar {value : Nat} (small : value < 16) : hexValue (Nat.digitChar value) = some value := by
  have digits : ∀ digit : Fin 16, hexValue (Nat.digitChar digit.val) = some digit.val := by decide
  exact digits ⟨value,small⟩

variable (rest : List Char)

private theorem unescape_plain {char : Char} (quote : char ≠ '"') (backslash : char ≠ '\\') (printed : ¬ char.toNat < 32) :
    unescape (char :: rest) = (unescape rest).map fun (text,rest) => (char :: text,rest) := by
  rw [unescape.eq_def]
  simp [quote,backslash,printed]

private theorem unescape_marked {mark char : Char} (other : mark ≠ 'u') (stands : marked mark = some char) :
    unescape ('\\' :: mark :: rest) = (unescape rest).map fun (text,rest) => (char :: text,rest) := by
  rw [unescape.eq_def]
  simp [other,stands]

private theorem unescape_hex {first second third fourth char : Char} (stands : hexChar first second third fourth = some char) :
    unescape ('\\' :: 'u' :: first :: second :: third :: fourth :: rest) = (unescape rest).map fun (text,rest) => (char :: text,rest) := by
  rw [unescape.eq_def]
  simp [stands]

private theorem unescape_escape (char : Char) (rest : List Char) :
    unescape (escape char ++ rest) = (unescape rest).map fun (text,rest) => (char :: text,rest) := by
  have named : ∀ code, char.toNat = code → char = Char.ofNat code := by
    rintro code rfl
    exact (Char.ofNat_toNat char).symm
  unfold escape
  split_ifs with quote backslash bell tab line feed carriage control
  · rw [quote]
    exact unescape_marked rest (by decide) (by decide)
  · rw [backslash]
    exact unescape_marked rest (by decide) (by decide)
  · rw [named 8 bell]
    exact unescape_marked rest (by decide) (by decide)
  · rw [named 9 tab]
    exact unescape_marked rest (by decide) (by decide)
  · rw [named 10 line]
    exact unescape_marked rest (by decide) (by decide)
  · rw [named 12 feed]
    exact unescape_marked rest (by decide) (by decide)
  · rw [named 13 carriage]
    exact unescape_marked rest (by decide) (by decide)
  · have zero : hexValue '0' = some 0 := by decide
    have high := hexValue_digitChar (show char.toNat/16 < 16 by omega)
    have low := hexValue_digitChar (show char.toNat%16 < 16 by omega)
    have code : hexChar '0' '0' (Nat.digitChar (char.toNat/16)) (Nat.digitChar (char.toNat%16)) = some char := by
      have whole : char.toNat/16*16+char.toNat%16 = char.toNat := by omega
      simp only [hexChar,zero,high,low,bind_eq_bind,bind_some,Nat.zero_mul,Nat.zero_add,whole]
      rw [if_neg (by omega)]
      exact congrArg some (Char.ofNat_toNat char)
    exact unescape_hex rest code
  · exact unescape_plain rest quote backslash control

/-- The string tokens of the JSON library. -/
def escaped : Strings where
  print text := '"' :: (text.toList.flatMap escape ++ ['"'])
  parse
    | [] => none
    | mark :: rest => if mark = '"' then (unescape rest).map fun (text,rest) => (String.ofList text,rest) else none
  quoted text := ⟨_,rfl⟩
  inverts text rest := by
    have read : ∀ chars : List Char, unescape (chars.flatMap escape ++ ('"' :: rest)) = some (chars,rest) := by
      intro chars
      induction chars with
      | nil => rw [flatMap_nil,nil_append,unescape.eq_def]; rfl
      | cons char chars ih =>
        rw [flatMap_cons,append_assoc,unescape_escape,ih]
        rfl
    simp [read]

end Escapes

end Deepstrike.Texts
