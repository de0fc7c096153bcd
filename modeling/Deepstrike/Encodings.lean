import Deepstrike.Scalars

/-!
The base64 text of some bytes, and which texts are read as bytes: the decoder looks at the bytes of the text, and
does not look at the bits that the padding leaves over.
-/
namespace Deepstrike.Scalars
open List Option String

/-- The bytes of a text, each as the character it would be. -/
def text_bytes (text : String) : List Char := text.toUTF8.data.toList.map fun byte => Char.ofNat byte.toNat

def base64_encode_text (bytes : List UInt8) : String := ofList (base64_encode bytes)

def base64_decode_text (text : String) : Except String (List UInt8) := base64_decode (text_bytes text)

/-- The bits of the last character before the padding that belong to no byte. -/
def trailing_bits : List Char → Nat
  | [_,second,third,fourth] =>
    if fourth ≠ '=' then 0 else if third ≠ '=' then (base64_value third).getD 0%4 else (base64_value second).getD 0%16
  | _ :: _ :: _ :: _ :: rest => trailing_bits rest
  | _ => 0

section Alphabet
variable {char : Char} {value : Nat}

private theorem base64_value_ascii (found : base64_value char = some value) : char.toNat < 128 := by
  unfold base64_value at found
  split_ifs at found with upper lower digit plus slash
  · have bound : char.toNat ≤ 'Z'.toNat := Char.le_def.mp upper.2
    exact Nat.lt_of_le_of_lt bound (by decide)
  · have bound : char.toNat ≤ 'z'.toNat := Char.le_def.mp lower.2
    exact Nat.lt_of_le_of_lt bound (by decide)
  · have bound : char.toNat ≤ '9'.toNat := Char.le_def.mp digit.2
    exact Nat.lt_of_le_of_lt bound (by decide)
  · rw [plus]
    decide
  · rw [slash]
    decide

theorem base64_char_value (found : base64_value char = some value) : value < 64 ∧ base64_char value = char := by
  have table : ∀ code < 128, ∀ value, base64_value (Char.ofNat code) = some value → value < 64 ∧ base64_char value = Char.ofNat code := by
    have each : ∀ code < 128, (base64_value (Char.ofNat code)).all (fun value => value < 64 && base64_char value = Char.ofNat code) = true := by
      decide +kernel
    intro code bound value found
    have here := each code bound
    rw [found] at here
    simpa using here
  have here := table char.toNat (base64_value_ascii found) value
  rw [Char.ofNat_toNat] at here
  exact here found

private theorem base64_char_injective {left right : Nat} (small : left < 64) (small' : right < 64)
    (same : base64_char left = base64_char right) : left = right := by
  have first := (base64_char_spec left).2
  rw [same,(base64_char_spec right).2,Nat.mod_eq_of_lt small,Nat.mod_eq_of_lt small'] at first
  exact (some.inj first).symm

theorem base64_digit_ok (read : base64_digit char = .ok value) :
    char = '=' ∧ value = 0 ∨ char ≠ '=' ∧ base64_value char = some value := by
  unfold base64_digit at read
  split_ifs at read with pad
  · exact .inl ⟨pad,(Except.ok.inj read).symm⟩
  · split at read
    next => cases read
    next found => exact .inr ⟨pad,(Except.ok.inj read) ▸ found⟩

end Alphabet

theorem base64_char_of {bits value : Nat} {char : Char} (found : base64_value char = some value)
    (same : bits%64 = value) : base64_char bits = char := by
  obtain ⟨small,written⟩ := base64_char_value found
  rw [← written,base64_char,base64_char,same,Nat.mod_eq_of_lt small]

variable {first second : Char} {is_last : Bool} {bytes : List UInt8} {third fourth : Char}

private theorem base64_chunk_three {x y z : UInt8} {a b c d : Nat} (one : base64_value first = some a)
    (two : base64_value second = some b) (three : base64_value third = some c) (four : base64_value fourth = some d)
    (high : x.toNat = a*4+b/16) (middle : y.toNat = b%16*16+c/4) (low : z.toNat = c%4*64+d) :
    base64_chunk x (some y) (some z) = [first,second,third,fourth] := by
  have a_small := (base64_char_value one).1
  have b_small := (base64_char_value two).1
  have c_small := (base64_char_value three).1
  have d_small := (base64_char_value four).1
  simp only [base64_chunk,getD_some,isSome_some,if_true,high,middle,low]
  rw [base64_char_of one (by omega),base64_char_of two (by omega),base64_char_of three (by omega),base64_char_of four (by omega)]

private theorem base64_chunk_two {x y : UInt8} {a b c : Nat} (one : base64_value first = some a) (two : base64_value second = some b)
    (c_small : c < 64) (high : x.toNat = a*4+b/16) (middle : y.toNat = b%16*16+c/4) :
    base64_chunk x (some y) none = [first,second,base64_char (c-c%4),'='] := by
  have a_small := (base64_char_value one).1
  have b_small := (base64_char_value two).1
  simp only [base64_chunk,getD_some,getD_none,UInt8.toNat_zero,Nat.add_zero,isSome_some,isSome_none,Bool.false_eq_true,
    if_true,if_false,high,middle]
  have tail : base64_char (((a*4+b/16)*2^16+(b%16*16+c/4)*2^8)/2^6) = base64_char (c-c%4) := by
    unfold base64_char
    rw [show ((a*4+b/16)*2^16+(b%16*16+c/4)*2^8)/2^6%64 = (c-c%4)%64 by omega]
  rw [base64_char_of one (by omega),base64_char_of two (by omega),tail]

private theorem base64_chunk_one {x : UInt8} {a b : Nat} (one : base64_value first = some a) (b_small : b < 64) (high : x.toNat = a*4+b/16) :
    base64_chunk x none none = [first,base64_char (b-b%16),'=','='] := by
  have a_small := (base64_char_value one).1
  simp only [base64_chunk,getD_none,UInt8.toNat_zero,Nat.zero_mul,Nat.add_zero,isSome_none,Bool.false_eq_true,if_false,high]
  have tail : base64_char ((a*4+b/16)*2^16/2^12) = base64_char (b-b%16) := by
    unfold base64_char
    rw [show (a*4+b/16)*2^16/2^12%64 = (b-b%16)%64 by omega]
  rw [base64_char_of one (by omega),tail]

/-- The digits of four characters that are read, and where the padding stands. -/
theorem base64_unchunk_digits
    (read : base64_unchunk is_last first second third fourth = .ok bytes) :
    ∃ a b c d triple, base64_digit first = .ok a ∧ base64_digit second = .ok b ∧ base64_digit third = .ok c ∧
    base64_digit fourth = .ok d ∧
      triple = a*2^18+b*2^12+c*2^6+d ∧ first ≠ '=' ∧ second ≠ '=' ∧ (third = '=' → fourth = '=') ∧
      (fourth = '=' → is_last = true) ∧
      bytes = UInt8.ofNat (triple/2^16) ::
        ((if third = '=' then [] else [UInt8.ofNat (triple/2^8)]) ++ if fourth = '=' then []
        else [UInt8.ofNat triple]) := by
  unfold base64_unchunk at read
  dsimp only at read
  split at read
  next => cases read
  next inner =>
  split at read
  next => cases read
  next shape =>
  cases one : base64_digit first with
  | error message => simp [one,bind,Except.bind] at read
  | ok a =>
  cases two : base64_digit second with
  | error message => simp [one,two,bind,Except.bind] at read
  | ok b =>
  cases three : base64_digit third with
  | error message => simp [one,two,three,bind,Except.bind] at read
  | ok c =>
  cases four : base64_digit fourth with
  | error message => simp [one,two,three,four,bind,Except.bind] at read
  | ok d =>
  simp only [one,two,three,four,bind,Except.bind,Except.ok.injEq] at read
  refine ⟨a,b,c,d,_,rfl,rfl,rfl,rfl,rfl,?_⟩
  generalize a*2^18+b*2^12+c*2^6+d = triple at read ⊢
  subst read
  by_cases pad_first : first = '=' <;> by_cases pad_second : second = '=' <;> by_cases pad_third : third = '=' <;>
    by_cases pad_fourth : fourth = '=' <;> simp_all

/-- What is read off four characters, and how it would be written again. -/
theorem base64_unchunk_ok
    (read : base64_unchunk is_last first second third fourth = .ok bytes) :
    (∃ x y z, bytes = [x,y,z] ∧ fourth ≠ '=' ∧ base64_chunk x (some y) (some z) = [first,second,third,fourth]) ∨
    (is_last = true ∧ ∃ x y value, bytes = [x,y] ∧ third ≠ '=' ∧ fourth = '=' ∧ base64_value third = some value ∧
      base64_chunk x (some y) none = [first,second,base64_char (value-value%4),'=']) ∨
    (is_last = true ∧ ∃ x value, bytes = [x] ∧ third = '=' ∧ fourth = '=' ∧ base64_value second = some value ∧
      base64_chunk x none none = [first,base64_char (value-value%16),'=','=']) := by
  obtain ⟨a,b,c,d,triple,one,two,three,four,whole,solid,solid',order,last,rfl⟩ := base64_unchunk_digits read
  have first_value : base64_value first = some a := ((base64_digit_ok one).resolve_left fun pad => solid pad.1).2
  have second_value : base64_value second = some b := ((base64_digit_ok two).resolve_left fun pad => solid' pad.1).2
  have a_small := (base64_char_value first_value).1
  have b_small := (base64_char_value second_value).1
  have c_small : c < 64 := by
    rcases base64_digit_ok three with ⟨_,zero⟩ | ⟨_,value⟩
    · omega
    · exact (base64_char_value value).1
  have d_small : d < 64 := by
    rcases base64_digit_ok four with ⟨_,zero⟩ | ⟨_,value⟩
    · omega
    · exact (base64_char_value value).1
  have high : (UInt8.ofNat (triple/2^16)).toNat = a*4+b/16 := by
    rw [UInt8.toNat_ofNat']
    omega
  have middle : (UInt8.ofNat (triple/2^8)).toNat = b%16*16+c/4 := by
    rw [UInt8.toNat_ofNat']
    omega
  have low : (UInt8.ofNat triple).toNat = c%4*64+d := by
    rw [UInt8.toNat_ofNat']
    omega
  by_cases padded : fourth = '='
  · rw [if_pos padded]
    by_cases padded' : third = '='
    · rw [if_pos padded']
      exact .inr (.inr ⟨last padded,_,b,rfl,padded',padded,second_value,base64_chunk_one first_value b_small high⟩)
    · have third_value : base64_value third = some c := ((base64_digit_ok three).resolve_left fun pad => padded' pad.1).2
      rw [if_neg padded']
      exact .inr (.inl ⟨last padded,_,_,c,rfl,padded',padded,third_value,base64_chunk_two first_value second_value c_small high middle⟩)
  have padded' : third ≠ '=' := fun pad => padded (order pad)
  have third_value : base64_value third = some c := ((base64_digit_ok three).resolve_left fun pad => padded' pad.1).2
  have fourth_value : base64_value fourth = some d := ((base64_digit_ok four).resolve_left fun pad => padded pad.1).2
  rw [if_neg padded,if_neg padded']
  exact .inl ⟨_,_,_,rfl,padded,base64_chunk_three first_value second_value third_value fourth_value high middle low⟩

/-- A text that is read is the one its bytes are written as exactly when no bit is left over. -/
theorem base64_chunks_ok (text : List Char) (bytes : List UInt8) (read : base64_chunks text = .ok bytes)
    (whole : text.length%4 = 0) :
    base64_encode bytes = text ↔ trailing_bits text = 0 := by
  induction text using base64_chunks.induct generalizing bytes with
  | case1 first second third fourth rest ih =>
    rw [base64_chunks] at read
    cases here : base64_unchunk rest.isEmpty first second third fourth with
    | error message => simp [here,bind,Except.bind] at read
    | ok front =>
    cases there : base64_chunks rest with
    | error message => simp [here,there,bind,Except.bind] at read
    | ok others =>
    simp only [here,there,bind,Except.bind,Except.ok.injEq] at read
    subst read
    have whole' : rest.length%4 = 0 := by
      simp only [length_cons] at whole
      omega
    have later := ih others there whole'
    cases rest with
    | nil =>
      have nothing : others = [] := (Except.ok.inj there).symm
      subst nothing
      rw [append_nil,trailing_bits]
      rcases base64_unchunk_ok here with ⟨x,y,z,rfl,solid,written⟩ | ⟨_,x,y,value,rfl,solid,pad,found,written⟩ | ⟨_,x,
        value,rfl,pad',pad,found,written⟩
      · rw [if_pos solid,base64_encode,written]
        exact ⟨fun _ => rfl,fun _ => rfl⟩
      · rw [if_neg (not_not.mpr pad),if_pos solid,base64_encode,written,found,getD_some,pad]
        obtain ⟨small,char⟩ := base64_char_value found
        constructor
        · intro same
          have third_same : base64_char (value-value%4) = base64_char value := by
            rw [char]
            simpa using same
          have equal := base64_char_injective (by omega) small third_same
          omega
        · intro zero
          rw [zero,Nat.sub_zero,char]
      rw [if_neg (not_not.mpr pad),if_neg (not_not.mpr pad'),base64_encode,written,found,getD_some,pad,pad']
      obtain ⟨small,char⟩ := base64_char_value found
      constructor
      · intro same
        have second_same : base64_char (value-value%16) = base64_char value := by
          rw [char]
          simpa using same
        have equal := base64_char_injective (by omega) small second_same
        omega
      · intro zero
        rw [zero,Nat.sub_zero,char]
    | cons next rest =>
    rcases base64_unchunk_ok here with ⟨x,y,z,rfl,solid,written⟩ | ⟨last,_⟩ | ⟨last,_⟩
    · rw [show [x,y,z] ++ others = x :: y :: z :: others from rfl,base64_encode,written,trailing_bits,← later]
      · exact ⟨fun same => @List.append_cancel_left _ [first,second,third,fourth] _ _ same,fun same => by rw [same]; rfl⟩
      · intro eq
        cases eq
    · cases last
    · cases last
  | case2 text short =>
  have nothing : text = [] := by
    rcases text with _ | ⟨first,_ | ⟨second,_ | ⟨third,_ | ⟨fourth,rest⟩⟩⟩⟩
    · rfl
    · simp at whole
    · simp at whole
    · simp at whole
    · exact (short first second third fourth rest rfl).elim
  subst nothing
  obtain rfl := Except.ok.inj read
  exact ⟨fun _ => rfl,fun _ => rfl⟩

section Text
variable {text : String} {chars : List Char}

private theorem byte_char (byte : UInt8) : (Char.ofNat byte.toNat).toNat = byte.toNat := by
  have small := byte.toNat_lt
  have valid : byte.toNat.isValidChar := .inl (by omega)
  rw [Char.ofNat,dif_pos valid]
  rfl

private theorem text_bytes_injective {left right : String} (same : text_bytes left = text_bytes right) : left = right := by
  have injective : Function.Injective fun byte : UInt8 => Char.ofNat byte.toNat := by
    intro first second equal
    have codes := congrArg Char.toNat equal
    rw [byte_char,byte_char] at codes
    exact UInt8.toNat_inj.mp codes
  have bytes := injective.list_map same
  exact toByteArray_inj.mp (ByteArray.ext (Array.toList_inj.mp bytes))

private theorem text_bytes_ascii (ascii : ∀ char ∈ chars, char.toNat < 128) : text_bytes (ofList chars) = chars := by
  unfold text_bytes
  rw [toUTF8_eq_toByteArray,toByteArray_ofList,utf8Encode,toList_data_toByteArray,map_flatMap]
  induction chars with
  | nil => rfl
  | cons char rest ih =>
  rw [flatMap_cons,ih fun other member => ascii other (mem_cons_of_mem _ member)]
  have small := ascii char mem_cons_self
  have encoded : utf8EncodeChar char = [UInt8.ofNat char.toNat] := if_pos (by exact Nat.lt_succ_iff.mp small)
  rw [encoded,map_singleton,UInt8.toNat_ofNat',Nat.mod_eq_of_lt (by omega),Char.ofNat_toNat]
  rfl

theorem base64_char_ascii (bits : Nat) : (base64_char bits).toNat < 128 := base64_value_ascii (base64_char_spec bits).2

private theorem base64_chunk_ascii (first : UInt8) (second third : Option UInt8) : ∀ char ∈ base64_chunk first second third, char.toNat < 128 := by
  have pad : '='.toNat < 128 := by decide
  intro char member
  simp only [base64_chunk,mem_cons,not_mem_nil,or_false] at member
  rcases member with rfl | rfl | rfl | rfl
  · exact base64_char_ascii _
  · exact base64_char_ascii _
  · split
    · exact base64_char_ascii _
    · exact pad
  · split
    · exact base64_char_ascii _
    · exact pad

private theorem base64_encode_ascii (bytes : List UInt8) : ∀ char ∈ base64_encode bytes, char.toNat < 128 := by
  induction bytes using base64_encode.induct with
  | case1 =>
    intro char member
    cases member
  | case2 first => exact base64_chunk_ascii first none none
  | case3 first second => exact base64_chunk_ascii first (some second) none
  | case4 first second third rest ih =>
  intro char member
  rw [base64_encode] at member
  exact (mem_append.mp member).elim (base64_chunk_ascii first (some second) (some third) char) (ih char)

/-- Every byte string is read back; and a text that is read is the one its bytes are written as exactly when the
    bits that the padding leaves over are zero. -/
theorem base64_canonical (text : String) : (∀ bytes, base64_decode_text (base64_encode_text bytes) = .ok bytes) ∧
    ∀ bytes, base64_decode_text text = .ok bytes →
    (base64_encode_text bytes = text ↔ trailing_bits (text_bytes text) = 0) := by
  have written : ∀ bytes, text_bytes (base64_encode_text bytes) = base64_encode bytes := fun bytes => text_bytes_ascii (base64_encode_ascii bytes)
  refine ⟨fun bytes => ?_,fun bytes read => ?_⟩
  · rw [base64_decode_text,written]
    exact base64_decode_encode bytes
  unfold base64_decode_text base64_decode at read
  split at read
  next => cases read
  next whole =>
  rw [← base64_chunks_ok (text_bytes text) bytes read (not_not.mp whole),← written]
  exact ⟨fun same => by rw [same],text_bytes_injective⟩

/-- A padded text whose bits to spare are zero. -/
theorem base64_canonical_padded : base64_encode_text [65] = "QQ==" :=
  ((base64_canonical "QQ==").2 [65] (by decide +kernel)).mpr (by decide +kernel)

/-- Bits left over by the padding are read as nothing. -/
theorem base64_two_texts : base64_decode_text "QR==" = .ok [65] ∧ base64_encode_text [65] = "QQ==" := by decide +kernel

end Text

end Deepstrike.Scalars
