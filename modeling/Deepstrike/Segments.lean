import Deepstrike.RecordBytes

/-!
The directory of an operation in a journal: its id with every character that a path must not hold escaped by its
code point. An escape does not say where it ends, so some ids can be read in two ways.
-/
namespace Deepstrike.Segments
open Scalars RecordBytes List
open Texts (toDigits_injective)

/-- A character that stays as it is. -/
def passes (ch : Char) : Bool := ch.isAlphanum || ch = '.' || ch = '_' || ch = '-'

def escape (ch : Char) : List Char := if passes ch then [ch] else '~' :: Nat.toDigits 16 ch.toNat

def escaped (value : List Char) : List Char := value.flatMap escape

/-- The segment of an operation id. A segment of dots alone is escaped whole. -/
def safe_segment (value : String) : String :=
  if value.isEmpty then "~~"
  else
    let out := escaped value.toList
    if out.all (· = '.') then String.ofList (out.flatMap fun _ => "~2e".toList) else String.ofList out

/-- Two escapes in one: the code point of a character, with digits behind it, is that of another. -/
structure Rereads (ch : Char) (digits : List Char) (other : Char) : Prop where
  left : passes ch = false
  right : passes other = false
  some : digits ≠ []
  joined : Nat.toDigits 16 other.toNat = Nat.toDigits 16 ch.toNat ++ digits

/-- One escape of an id is read as another, with the digits behind it or without them. -/
def Reread (value other : List Char) : Prop :=
  ∃ before rest ch digits joined, Rereads ch digits joined ∧
    (value = before ++ ch :: (digits ++ rest) ∧ other = before ++ joined :: rest ∨
      value = before ++ joined :: rest ∧ other = before ++ ch :: (digits ++ rest))

/-- An escaped character of the id, with the hexadecimal digits behind it, can be read as another one, and the id
    read so is one that is admitted. -/
def Ambiguous (value : String) : Prop := ∃ other, Reread value.toList other ∧ Valid (String.ofList other)

section Digits

private theorem toDigits_hex {value : Nat} {ch : Char} (member : ch ∈ Nat.toDigits 16 value) : ∃ digit < 16, ch = Nat.digitChar digit := by
  induction value using Nat.strongRecOn with
  | ind value ih =>
  rw [Nat.toDigits_eq_if (by decide)] at member
  split at member
  next small => exact ⟨value,small,mem_singleton.mp member⟩
  next large =>
  rcases mem_append.mp member with front | last
  · exact ih (value/16) (by omega) front
  · exact ⟨value%16,Nat.mod_lt value (by decide),mem_singleton.mp last⟩

private theorem digit_passes : ∀ digit < 16, passes (Nat.digitChar digit) = true := by decide

private theorem toDigits_passes {value : Nat} {ch : Char} (member : ch ∈ Nat.toDigits 16 value) : passes ch = true := by
  obtain ⟨digit,small,rfl⟩ := toDigits_hex member
  exact digit_passes digit small

end Digits

theorem escape_pass {ch : Char} (pass : passes ch = true) : escape ch = [ch] := if_pos pass

theorem escape_mark {ch : Char} (marked : passes ch = false) : escape ch = '~' :: Nat.toDigits 16 ch.toNat := by
  rw [escape,if_neg (by simp [marked])]

theorem escaped_cons (ch : Char) (rest : List Char) : escaped (ch :: rest) = escape ch ++ escaped rest := flatMap_cons

private theorem escaped_append (first second : List Char) : escaped (first ++ second) = escaped first ++ escaped second := flatMap_append

private theorem escaped_digits {digits : List Char} (pass : ∀ ch ∈ digits, passes ch = true) : escaped digits = digits := by
  induction digits with
  | nil => rfl
  | cons ch rest ih =>
  rw [escaped_cons,escape_pass (pass ch mem_cons_self),ih fun other member => pass other (mem_cons_of_mem _ member)]
  rfl

theorem passes_mark : passes '~' = false := by decide

private theorem escaped_begins {digits value rest : List Char} (pass : ∀ ch ∈ digits, passes ch = true) (same : escaped value = digits ++ rest) :
    ∃ after, value = digits ++ after ∧ escaped after = rest := by
  induction digits generalizing value with
  | nil => exact ⟨value,rfl,same⟩
  | cons digit digits ih =>
  have here := pass digit mem_cons_self
  cases value with
  | nil => cases same
  | cons ch after =>
  rw [escaped_cons] at same
  cases marked : passes ch with
  | true =>
    rw [escape_pass marked,singleton_append,cons_append,cons.injEq] at same
    obtain ⟨last,rfl,later⟩ := ih (fun other member => pass other (mem_cons_of_mem _ member)) same.2
    exact ⟨last,by rw [same.1]; rfl,later⟩
  | false =>
  rw [escape_mark marked,cons_append,cons_append,cons.injEq] at same
  rw [← same.1,passes_mark] at here
  cases here

namespace Rereads
variable {ch other : Char} {digits : List Char}

theorem pass (reads : Rereads ch digits other) : ∀ digit ∈ digits, passes digit = true := fun digit member =>
  toDigits_passes (show digit ∈ Nat.toDigits 16 other.toNat from reads.joined ▸ mem_append_right _ member)

theorem same (reads : Rereads ch digits other) (before rest : List Char) :
    escaped (before ++ ch :: (digits ++ rest)) = escaped (before ++ other :: rest) := by
  rw [escaped_append,escaped_append,escaped_cons,escaped_cons,escaped_append,escape_mark reads.left,escape_mark reads.right,reads.joined,
    escaped_digits reads.pass,cons_append,cons_append,append_assoc]

end Rereads

theorem Reread.same {value other : List Char} (reread : Reread value other) : escaped other = escaped value := by
  obtain ⟨before,rest,ch,digits,joined,reads,⟨rfl,rfl⟩ | ⟨rfl,rfl⟩⟩ := reread
  · exact (reads.same before rest).symm
  · exact reads.same before rest

theorem Reread.differ {value other : List Char} (reread : Reread value other) : other ≠ value := by
  obtain ⟨before,rest,ch,digits,joined,reads,⟨rfl,rfl⟩ | ⟨rfl,rfl⟩⟩ := reread
  · intro same
    have length := congrArg length same
    have some := length_pos_iff.mpr reads.some
    simp only [length_append,length_cons] at length
    omega
  intro same
  have length := congrArg length same
  have some := length_pos_iff.mpr reads.some
  simp only [length_append,length_cons] at length
  omega

theorem Reread.cons {value other : List Char} (reread : Reread value other) (front : List Char) :
    Reread (front ++ value) (front ++ other) := by
  obtain ⟨before,rest,ch,digits,joined,reads,cases_⟩ := reread
  refine ⟨front ++ before,rest,ch,digits,joined,reads,cases_.imp ?_ ?_⟩
  · rintro ⟨rfl,rfl⟩
    exact ⟨(append_assoc _ _ _).symm,(append_assoc _ _ _).symm⟩
  · rintro ⟨rfl,rfl⟩
    exact ⟨(append_assoc _ _ _).symm,(append_assoc _ _ _).symm⟩

/-- The bytes of some characters. -/
def weight (chars : List Char) : Nat := (String.ofList chars).utf8ByteSize

theorem weight_append (first second : List Char) : weight (first ++ second) = weight first+weight second := by
  rw [weight,String.ofList_append,String.utf8ByteSize_append,weight,weight]

private theorem escapes_apart {ch other : Char} {rest more : List Char} (left : passes ch = false) (right : passes other = false) (apart : ch ≠ other)
    (same : escape ch ++ escaped rest = escape other ++ escaped more) :
    (∃ digits after, Rereads ch digits other ∧ rest = digits ++ after ∧ escaped after = escaped more) ∨
      ∃ digits after, Rereads other digits ch ∧ more = digits ++ after ∧ escaped after = escaped rest := by
  rw [escape_mark left,escape_mark right,cons_append,cons_append,cons.injEq] at same
  have differ : Nat.toDigits 16 ch.toNat ≠ Nat.toDigits 16 other.toNat :=
    fun equal => apart (Char.toNat_inj.mp (toDigits_injective (by decide) (by decide) equal))
  rcases append_eq_append_iff.mp same.2 with ⟨digits,joined,tail⟩ | ⟨digits,joined,tail⟩
  · have some : digits ≠ [] := by
      rintro rfl
      rw [append_nil] at joined
      exact differ joined.symm
    have reads : Rereads ch digits other := ⟨left,right,some,joined⟩
    obtain ⟨after,rfl,later⟩ := escaped_begins reads.pass tail
    exact .inl ⟨digits,after,reads,rfl,later⟩
  have some : digits ≠ [] := by
    rintro rfl
    rw [append_nil] at joined
    exact differ joined
  have reads : Rereads other digits ch := ⟨right,left,some,joined⟩
  obtain ⟨after,rfl,later⟩ := escaped_begins reads.pass tail
  exact .inr ⟨digits,after,reads,rfl,later⟩

private theorem escape_head {ch other : Char} {rest more : List Char} (apart : ch ≠ other) (same : escape ch ++ rest = escape other ++ more) :
    passes ch = false ∧ passes other = false := by
  cases left : passes ch with
  | true =>
    rw [escape_pass left] at same
    cases right : passes other with
    | true =>
      rw [escape_pass right] at same
      exact absurd (cons.inj same).1 apart
    | false =>
    rw [escape_mark right] at same
    rw [(cons.inj same).1,passes_mark] at left
    cases left
  | false =>
  rw [escape_mark left] at same
  cases right : passes other with
  | true =>
    rw [escape_pass right] at same
    rw [← (cons.inj same).1,passes_mark] at right
    cases right
  | false => exact ⟨rfl,rfl⟩

/-- A reading of a text that is no longer than another, and made of what either holds. -/
structure Near (value other near : List Char) : Prop where
  reread : Reread value near
  short : weight near ≤ max (weight value) (weight other)
  among : ∀ ch ∈ near, ch ∈ value ∨ ch ∈ other

theorem Near.front {value other near : List Char} {front front' : List Char} (reads : Near value other near)
    (light : weight front ≤ weight front') :
    Near (front ++ value) (front' ++ other) (front ++ near) := by
  refine ⟨reads.reread.cons front,?_,fun ch member => ?_⟩
  · have bound := reads.short
    rw [weight_append,weight_append,weight_append]
    omega
  · rcases mem_append.mp member with here | there
    · exact .inl (mem_append_left _ here)
    · exact (reads.among ch there).imp (mem_append_right _) (mem_append_right _)

/-- Two texts with one escape differ by single readings; one of them is no longer than the texts are. -/
theorem near_of_same {value other : List Char} (same : escaped value = escaped other) (apart : value ≠ other) :
    ∃ near, Near value other near := by
  -- The texts are read from the front; behind the first difference the rests have one escape again.
  induction length : value.length using Nat.strongRecOn generalizing value other with
  | ind count ih =>
  cases value with
  | nil =>
    cases other with
    | nil => exact absurd rfl apart
    | cons second more =>
    rw [escaped_cons,escape] at same
    split at same <;> cases same
  | cons first rest =>
  cases other with
  | nil =>
    rw [escaped_cons,escape] at same
    split at same <;> cases same
  | cons second more =>
  rw [length_cons] at length
  rw [escaped_cons,escaped_cons] at same
  by_cases equal : first = second
  · subst equal
    obtain ⟨near,reads⟩ := ih rest.length (by omega) (append_cancel_left same) (fun eq => apart (by rw [eq])) rfl
    exact ⟨_,@Near.front _ _ _ [first] [first] reads (Nat.le_refl _)⟩
  obtain ⟨left,right⟩ := escape_head equal same
  rcases escapes_apart left right equal same with ⟨digits,after,reads,rfl,later⟩ | ⟨digits,after,reads,rfl,later⟩
  · have joined : Reread (first :: (digits ++ after)) (second :: after) := ⟨[],after,first,digits,second,reads,.inl ⟨rfl,rfl⟩⟩
    by_cases short : weight (second :: after) ≤ max (weight (first :: (digits ++ after))) (weight (second :: more))
    · refine ⟨_,joined,short,fun ch member => ?_⟩
      rcases mem_cons.mp member with rfl | there
      · exact .inr mem_cons_self
      · exact .inl (mem_cons_of_mem _ (mem_append_right _ there))
    have differ : after ≠ more := by
      rintro rfl
      exact short (Nat.le_max_right _ _)
    rw [length_append] at length
    obtain ⟨near,near_⟩ := ih after.length (by omega) later differ rfl
    have light : weight (first :: digits) ≤ weight [second] := by
      rw [show second :: after = [second] ++ after from rfl,show first :: (digits ++ after) = (first :: digits) ++ after from rfl,
        weight_append,weight_append] at short
      omega
    exact ⟨_,near_.front light⟩
  have parted : Reread (first :: rest) (second :: (digits ++ rest)) := ⟨[],rest,second,digits,first,reads,.inr ⟨rfl,rfl⟩⟩
  by_cases short : weight (second :: (digits ++ rest)) ≤ max (weight (first :: rest)) (weight (second :: (digits ++ after)))
  · refine ⟨_,parted,short,fun ch member => ?_⟩
    rw [show second :: (digits ++ rest) = (second :: digits) ++ rest from rfl] at member
    rcases mem_append.mp member with here | there
    · exact .inr (mem_append_left after here)
    · exact .inl (mem_cons_of_mem _ there)
  have differ : rest ≠ after := by
    rintro rfl
    exact short (Nat.le_max_right _ _)
  obtain ⟨near,near_⟩ := ih rest.length (by omega) later.symm differ rfl
  have light : weight [first] ≤ weight (second :: digits) := by
    rw [show second :: (digits ++ rest) = (second :: digits) ++ rest from rfl,show first :: rest = [first] ++ rest from rfl,
      weight_append,weight_append] at short
    omega
  exact ⟨_,near_.front light⟩

section
variable {value other : String}

private theorem chars_some (valid : Valid value) : value.toList ≠ [] := fun nothing => by
  have shown := valid.nonempty
  rw [String.toList_eq_nil_iff] at nothing
  rw [nothing] at shown
  cases shown

theorem segment_eq (valid : Valid value) : safe_segment value = String.ofList
    (if (escaped value.toList).all (· = '.') then (escaped value.toList).flatMap fun _ => "~2e".toList
    else escaped value.toList) := by
  unfold safe_segment
  rw [valid.nonempty,if_neg Bool.false_ne_true]
  dsimp only
  split
  · rfl
  · rfl

private theorem dots_behind (dots : List Char) :
    (dots.flatMap fun _ => "~2e".toList) = [] ∨ ∃ rest, (dots.flatMap fun _ => "~2e".toList) = '~' :: rest := by
  cases dots with
  | nil => exact .inl rfl
  | cons dot rest => exact .inr ⟨_,rfl⟩

variable {chars : List Char}

/-- No admitted id is escaped to escaped dots: the code point of a dot is no other's, and that of its first digit
    is a control character. -/
theorem dots_apart {dots : List Char} (some : dots ≠ []) (printed : chars.any is_control = false) :
    (dots.flatMap fun _ => "~2e".toList) ≠ escaped chars := by
  intro same
  cases dots with
  | nil => exact some rfl
  | cons dot rest =>
  cases chars with
  | nil => cases same
  | cons ch after =>
  rw [flatMap_cons,escaped_cons] at same
  have marked : passes ch = false := by
    cases pass : passes ch with
    | false => rfl
    | true =>
    rw [escape_pass pass] at same
    have mark : '~' = ch := (cons.inj same).1
    rw [← mark,passes_mark] at pass
    cases pass
  rw [escape_mark marked] at same
  have digits : '2' :: 'e' :: (rest.flatMap fun _ => "~2e".toList) = Nat.toDigits 16 ch.toNat ++ escaped after := (cons.inj same).2
  cases first : Nat.toDigits 16 ch.toNat with
  | nil => exact Nat.toDigits_ne_nil first
  | cons digit more =>
  rw [first,cons_append,cons.injEq] at digits
  obtain ⟨rfl,tail⟩ := digits
  cases more with
  | nil =>
    have two : ch.toNat = 2 := @toDigits_injective 16 (by decide) (by decide) _ 2 first
    have control : is_control ch = true := by simp [is_control,two]
    simp [control] at printed
  | cons next last =>
  rw [cons_append,cons.injEq] at tail
  obtain ⟨rfl,behind⟩ := tail
  cases last with
  | nil =>
    have dot_ : ch.toNat = '.'.toNat := toDigits_injective (by decide) (by decide) first
    rw [Char.toNat_inj.mp dot_] at marked
    exact absurd marked (by decide)
  | cons third end_ =>
  have pass : passes third = true := toDigits_passes (show third ∈ Nat.toDigits 16 ch.toNat from first ▸ by simp)
  rcases dots_behind rest with nothing | ⟨others,mark⟩
  · rw [nothing] at behind
    cases behind
  · rw [mark,cons_append,cons.injEq] at behind
    rw [← behind.1,passes_mark] at pass
    cases pass

private theorem dots_length {first second : List Char} (same : (first.flatMap fun _ => "~2e".toList) = second.flatMap fun _ => "~2e".toList) :
    first.length = second.length := by
  have length := congrArg length same
  have three : ∀ dots : List Char, (dots.flatMap fun _ => "~2e".toList).length = 3*dots.length := fun dots => by
    induction dots with
    | nil => rfl
    | cons dot rest ih =>
    rw [flatMap_cons,length_append,ih,length_cons]
    have mark : "~2e".toList.length = 3 := by decide
    omega
  rw [three,three] at length
  omega

private theorem all_dots (dotted : chars.all (· = '.') = true) : chars = List.replicate chars.length '.' :=
  eq_replicate_iff.mpr ⟨rfl,fun ch member => of_decide_eq_true (all_eq_true.mp dotted ch member)⟩

private theorem escaped_some (some : chars ≠ []) : escaped chars ≠ [] := by
  cases chars with
  | nil => exact absurd rfl some
  | cons ch rest =>
  rw [escaped_cons,escape]
  split
  · exact cons_ne_nil _ _
  · exact cons_ne_nil _ _

private theorem escaped_of_segment (left : Valid value) (right : Valid other) (same : safe_segment value = safe_segment other) :
    escaped value.toList = escaped other.toList := by
  rw [segment_eq left,segment_eq right] at same
  have chars := String.ofList_injective same
  by_cases dotted : (escaped value.toList).all (· = '.') = true
  · by_cases dotted' : (escaped other.toList).all (· = '.') = true
    · rw [if_pos dotted,if_pos dotted'] at chars
      rw [all_dots dotted,all_dots dotted',dots_length chars]
    · rw [if_pos dotted,if_neg dotted'] at chars
      exact absurd chars (dots_apart (escaped_some (chars_some left)) right.printed)
  · by_cases dotted' : (escaped other.toList).all (· = '.') = true
    · rw [if_neg dotted,if_pos dotted'] at chars
      exact absurd chars.symm (dots_apart (escaped_some (chars_some right)) left.printed)
    · rwa [if_neg dotted,if_neg dotted'] at chars

private theorem segment_chars (valid : Valid value) : ∀ ch ∈ (safe_segment value).toList, passes ch = true ∨ ch = '~' := by
  intro ch member
  rw [segment_eq valid,String.toList_ofList] at member
  have plain : ∀ ch ∈ escaped value.toList, passes ch = true ∨ ch = '~' := by
    intro ch member
    obtain ⟨source,_,there⟩ := mem_flatMap.mp member
    unfold escape at there
    split at there
    next pass => exact .inl (mem_singleton.mp there ▸ pass)
    next =>
    rcases mem_cons.mp there with mark | digit
    · exact .inr mark
    · exact .inl (toDigits_passes digit)
  split at member
  next =>
    obtain ⟨_,_,there⟩ := mem_flatMap.mp member
    have each : ∀ ch ∈ "~2e".toList, passes ch = true ∨ ch = '~' := by simp [passes]
    exact each ch there
  next => exact plain ch member

private theorem segment_dots (valid : Valid value) : (safe_segment value).toList.all (· = '.') = false := by
  rw [segment_eq valid,String.toList_ofList]
  split
  next =>
    have some := escaped_some (chars_some valid)
    cases dots : escaped value.toList with
    | nil => exact absurd dots some
    | cons dot rest => rfl
  next undotted => simpa using undotted

/-- An admitted id has a segment of its own exactly when none of its escapes can be read as another with the digits
    behind it, or without its last ones; and a segment is always the name of one directory. -/
theorem segment_names_operation (admitted : validate_id "operation id" value = .ok ()) :
    ((∀ other, validate_id "operation id" other = .ok () → safe_segment other = safe_segment value → other = value) ↔
    ¬Ambiguous value) ∧
      safe_segment value ≠ "" ∧ safe_segment value ≠ "." ∧ safe_segment value ≠ ".." ∧
      ∀ ch ∈ (safe_segment value).toList, ch ≠ '/' ∧ ch ≠ '\\' := by
  have valid := (validate_id_ok _ _).mp admitted
  have undotted := segment_dots valid
  refine ⟨⟨fun unique ambiguous => ?_,fun plain other allowed same => ?_⟩,?_,?_,?_,fun ch member => ?_⟩
  · obtain ⟨other,reread,legal⟩ := ambiguous
    have same : safe_segment (String.ofList other) = safe_segment value := by
      rw [segment_eq legal,segment_eq valid,String.toList_ofList,reread.same]
    have equal := unique (String.ofList other) ((validate_id_ok _ _).mpr legal) same
    exact reread.differ (by rw [← equal,String.toList_ofList])
  · have legal := (validate_id_ok _ _).mp allowed
    by_contra apart
    have differ : value.toList ≠ other.toList := fun equal => apart (String.toList_injective equal).symm
    obtain ⟨near,reads⟩ := near_of_same (escaped_of_segment valid legal same.symm) differ
    refine plain ⟨near,reads.reread,?_,?_,?_⟩
    · have some : near ≠ [] := by
        obtain ⟨before,rest,ch,digits,joined,_,⟨_,rfl⟩ | ⟨_,rfl⟩⟩ := reads.reread
        · exact append_ne_nil_of_right_ne_nil _ (cons_ne_nil _ _)
        · exact append_ne_nil_of_right_ne_nil _ (cons_ne_nil _ _)
      rw [Bool.eq_false_iff]
      intro nothing
      rw [String.isEmpty_iff,String.ofList_eq_empty_iff] at nothing
      exact some nothing
    · have bound := reads.short
      have left := valid.short
      have right := legal.short
      rw [weight,weight,weight,String.ofList_toList,String.ofList_toList] at bound
      omega
    rw [String.toList_ofList,any_eq_false]
    intro ch member
    rcases reads.among ch member with here | there
    · exact any_eq_false.mp valid.printed ch here
    · exact any_eq_false.mp legal.printed ch there
  · intro empty
    rw [empty] at undotted
    exact absurd undotted (by decide)
  · intro dot
    rw [dot] at undotted
    exact absurd undotted (by decide)
  · intro dots
    rw [dots] at undotted
    exact absurd undotted (by decide)
  have made := segment_chars valid ch member
  constructor
  · rintro rfl
    exact absurd made (by decide)
  · rintro rfl
    exact absurd made (by decide)

/-- An id of letters, digits and a few marks has a segment of its own. -/
theorem segment_names_operation_plain :
    (∀ other, validate_id "operation id" other = .ok () → safe_segment other = safe_segment "run-1" →
    other = "run-1") ∧ safe_segment "run-1" ≠ "" := by
  have admitted : validate_id "operation id" "run-1" = .ok () := by decide +kernel
  refine ⟨(segment_names_operation admitted).1.mpr ?_,(segment_names_operation admitted).2.1⟩
  rintro ⟨other,⟨before,rest,ch,digits,joined,reads,⟨chars,_⟩ | ⟨chars,_⟩⟩,_⟩
  · have member : ch ∈ "run-1".toList := chars ▸ by simp
    have pass : ∀ ch ∈ "run-1".toList, passes ch = true := by simp [passes]
    cases (pass ch member).symm.trans reads.left
  · have member : joined ∈ "run-1".toList := chars ▸ by simp
    have pass : ∀ ch ∈ "run-1".toList, passes ch = true := by simp [passes]
    cases (pass joined member).symm.trans reads.right

/-- A space before a zero, and the letter whose code point is written so. -/
theorem segments_collide : validate_id "operation id" " 0" = .ok () ∧ validate_id "operation id" "Ȁ" = .ok () ∧
    " 0" ≠ "Ȁ" ∧
    safe_segment " 0" = safe_segment "Ȁ" := by decide +kernel

end

end Deepstrike.Segments
