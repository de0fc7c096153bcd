import Deepstrike.Texts
import Deepstrike.Record

/-!
The scalars of the wire: identities are bounded text, sequence numbers are decimal text, bytes are base64 text.
Each reader gives back what its writer wrote.
-/
namespace Deepstrike.Scalars
open Texts Record Option

def MAX_ID_BYTES : Nat := 256

def SCALAR_ERROR_MARKER : String := "wire scalar rejected"

def is_control (char : Char) : Bool := char.toNat ≤ 0x1f || (0x7f ≤ char.toNat && char.toNat ≤ 0x9f)

def validate_id (label value : String) : Except String Unit :=
  if value.isEmpty then .error s!"{label} must not be empty"
  else if MAX_ID_BYTES < value.utf8ByteSize then .error s!"{label} is {value.utf8ByteSize} bytes; the bound is {MAX_ID_BYTES}"
  else if value.toList.any is_control then .error s!"{label} must not contain control characters"
  else .ok ()

namespace WireU64

def print (value : Nat) : String := String.ofList (Nat.toDigits 10 value)

def parse (text : String) : Except String Nat :=
  if text.isEmpty then .error "u64 decimal string is empty"
  else if !text.toList.all Char.isDigit then .error s!"u64 must be a canonical decimal string, got {text.quote}"
  else if 1 < text.toList.length && text.toList.head? == some '0' then
    .error s!"u64 decimal string must not have leading zeros, got {text.quote}"
  else
    let value := Nat.ofDigitChars 10 text.toList 0
    if u64Max < value then .error s!"u64 decimal string {text.quote} is out of range" else .ok value

/-- A printed count is read back. -/
theorem parse_print {value : Nat} (bounded : value ≤ u64Max) : parse (print value) = .ok value := by
  have chars : (print value).toList = Nat.toDigits 10 value := String.toList_ofList
  have shown : (print value).isEmpty = false := by
    rw [Bool.eq_false_iff]
    intro empty
    rw [String.isEmpty_iff] at empty
    rw [empty] at chars
    exact Nat.toDigits_ne_nil chars.symm
  have digits : (Nat.toDigits 10 value).all Char.isDigit = true := List.all_eq_true.mpr (toDigits_isDigit value)
  have unpadded : (1 < (Nat.toDigits 10 value).length && (Nat.toDigits 10 value).head? == some '0') = false := by
    cases value with
    | zero => decide
    | succ value => simp [toDigits_head (value+1) (Nat.succ_pos value)]
  unfold parse
  simp only [chars,shown,digits,unpadded,Nat.ofDigitChars_ten_toDigits]
  simp [bounded]

theorem print_injective {left right : Nat} (same : print left = print right) : left = right := by
  have chars := String.ofList_injective same
  rw [← Nat.ofDigitChars_ten_toDigits (n := left),chars,Nat.ofDigitChars_ten_toDigits]

end WireU64

def BASE64_ALPHABET : List Char := "ABCDEFGHIJKLMNOPQRSTUVWXYZabcdefghijklmnopqrstuvwxyz0123456789+/".toList

def base64_char (bits : Nat) : Char := BASE64_ALPHABET.getD (bits%64) 'A'

/-- Up to three bytes as four characters. -/
def base64_chunk (first : UInt8) (second third : Option UInt8) : List Char :=
  let triple := first.toNat*2^16+(second.getD 0).toNat*2^8+(third.getD 0).toNat
  [base64_char (triple/2^18),base64_char (triple/2^12),if second.isSome then base64_char (triple/2^6) else '=',
    if third.isSome then base64_char triple else '=']

def base64_encode : List UInt8 → List Char
  | [] => []
  | [first] => base64_chunk first none none
  | [first,second] => base64_chunk first (some second) none
  | first :: second :: third :: rest => base64_chunk first (some second) (some third) ++ base64_encode rest

def base64_value (char : Char) : Option Nat :=
  if 'A' ≤ char ∧ char ≤ 'Z' then some (char.toNat-65)
  else if 'a' ≤ char ∧ char ≤ 'z' then some (char.toNat-97+26)
  else if '0' ≤ char ∧ char ≤ '9' then some (char.toNat-48+52)
  else if char = '+' then some 62
  else if char = '/' then some 63
  else none

def base64_digit (char : Char) : Except String Nat :=
  if char = '=' then .ok 0
  else
    match base64_value char with
    | none => .error s!"illegal base64 character {repr char}"
    | some value => .ok value

/-- Four characters as up to three bytes. -/
def base64_unchunk (is_last : Bool) (first second third fourth : Char) : Except String (List UInt8) := do
  let pad := [first,second,third,fourth].count '='
  if 0 < pad ∧ ¬ is_last then .error "base64 padding may only end the payload"
  else if 2 < pad ∨ (0 < pad ∧ fourth ≠ '=') ∨ (pad = 2 ∧ third ≠ '=') then .error "malformed base64 padding"
  else
    let triple := (← base64_digit first)*2^18+(← base64_digit second)*2^12+(← base64_digit third)*2^6+(← base64_digit fourth)
    .ok ([UInt8.ofNat (triple/2^16)] ++ (if pad < 2 then [UInt8.ofNat (triple/2^8)] else []) ++ if pad < 1 then
    [UInt8.ofNat triple] else [])

def base64_chunks : List Char → Except String (List UInt8)
  | first :: second :: third :: fourth :: rest => do
    let bytes ← base64_unchunk rest.isEmpty first second third fourth
    let others ← base64_chunks rest
    .ok (bytes ++ others)
  | _ => .ok []

/-- Strict base64: the standard alphabet with its padding. -/
def base64_decode (text : List Char) : Except String (List UInt8) :=
  if text.length%4 ≠ 0 then .error "base64 payload length must be a multiple of 4 (canonical padding)" else base64_chunks text

theorem base64_char_spec (bits : Nat) : base64_char bits ≠ '=' ∧ base64_value (base64_char bits) = some (bits%64) := by
  have letters : ∀ digit : Fin 64, BASE64_ALPHABET.getD digit.val 'A' ≠ '=' ∧ base64_value (BASE64_ALPHABET.getD digit.val 'A') = some digit.val := by
    decide +kernel
  exact letters ⟨bits%64,Nat.mod_lt bits (by decide)⟩

private theorem base64_digit_char (bits : Nat) : base64_digit (base64_char bits) = .ok (bits%64) := by
  obtain ⟨solid,value⟩ := base64_char_spec bits
  rw [base64_digit,if_neg solid,value]

private theorem base64_digit_pad : base64_digit '=' = .ok 0 := rfl

/-- The bytes of a chunk come back, whatever follows if all three are there, and as the last if not. -/
theorem base64_unchunk_chunk (is_last : Bool) (first : UInt8) (second third : Option UInt8)
    (ordered : third.isSome → second.isSome)
    (ends : third = none → is_last = true) :
    ∃ a b c d, base64_chunk first second third = [a,b,c,d] ∧
      base64_unchunk is_last a b c d = .ok (first :: (second.toList ++ third.toList)) := by
  refine ⟨_,_,_,_,rfl,?_⟩
  have solid := fun bits => (base64_char_spec bits).1
  have byte := first.toNat_lt
  cases second with
  | none =>
    cases third with
    | some third => simp at ordered
    | none =>
    obtain rfl := ends rfl
    have whole : first.toNat*2^16/2^18%64*2^18+first.toNat*2^16/2^12%64*2^12 = first.toNat*2^16 := by omega
    have count : [base64_char (first.toNat*2^16/2^18),base64_char (first.toNat*2^16/2^12),'=','='].count '=' = 2 := by
      simp [solid]
    have start : UInt8.ofNat (first.toNat*2^16/2^16) = first := by simp
    simp only [base64_unchunk,getD_none,UInt8.toNat_zero,Nat.zero_mul,Nat.add_zero,isSome_none,Bool.false_eq_true,if_false,count,
      base64_digit_char,base64_digit_pad,bind,Except.bind,whole,start]
    simp
  | some second =>
  have byte_second := second.toNat_lt
  cases third with
  | none =>
    obtain rfl := ends rfl
    obtain ⟨triple,bits⟩ : ∃ triple, triple = first.toNat*2^16+second.toNat*2^8 := ⟨_,rfl⟩
    have whole : triple/2^18%64*2^18+triple/2^12%64*2^12+triple/2^6%64*2^6 = triple := by omega
    have count : [base64_char (triple/2^18),base64_char (triple/2^12),base64_char (triple/2^6),'='].count '=' = 1 := by
      simp [solid]
    have start : UInt8.ofNat (triple/2^16) = first := UInt8.toNat_inj.mp (by rw [UInt8.toNat_ofNat']; omega)
    have middle : UInt8.ofNat (triple/2^8) = second := UInt8.toNat_inj.mp (by rw [UInt8.toNat_ofNat']; omega)
    simp only [base64_unchunk,getD_some,getD_none,UInt8.toNat_zero,Nat.add_zero,isSome_some,isSome_none,Bool.false_eq_true,
      if_true,if_false,← bits,count,base64_digit_char,base64_digit_pad,bind,Except.bind,whole,start,middle]
    simp
  | some third =>
  have byte_third := third.toNat_lt
  obtain ⟨triple,bits⟩ : ∃ triple, triple = first.toNat*2^16+second.toNat*2^8+third.toNat := ⟨_,rfl⟩
  have whole : triple/2^18%64*2^18+triple/2^12%64*2^12+triple/2^6%64*2^6+triple%64 = triple := by omega
  have count : [base64_char (triple/2^18),base64_char (triple/2^12),base64_char (triple/2^6),base64_char triple].count '=' = 0 := by
    simp [solid]
  have start : UInt8.ofNat (triple/2^16) = first := UInt8.toNat_inj.mp (by rw [UInt8.toNat_ofNat']; omega)
  have middle : UInt8.ofNat (triple/2^8) = second := UInt8.toNat_inj.mp (by rw [UInt8.toNat_ofNat']; omega)
  have last : UInt8.ofNat triple = third := UInt8.toNat_inj.mp (by rw [UInt8.toNat_ofNat']; omega)
  simp only [base64_unchunk,getD_some,isSome_some,if_true,← bits,count,base64_digit_char,bind,Except.bind,whole,start,middle,last]
  simp

variable (bytes : List UInt8)

private theorem base64_chunks_encode : base64_chunks (base64_encode bytes) = .ok bytes := by
  induction bytes using base64_encode.induct with
  | case1 => rfl
  | case2 first =>
    obtain ⟨a,b,c,d,shown,read⟩ := base64_unchunk_chunk true first none none (by simp) fun _ => rfl
    rw [base64_encode,shown,base64_chunks]
    simp [read,base64_chunks,bind,Except.bind]
  | case3 first second =>
    obtain ⟨a,b,c,d,shown,read⟩ := base64_unchunk_chunk true first (some second) none (by simp) fun _ => rfl
    rw [base64_encode,shown,base64_chunks]
    simp [read,base64_chunks,bind,Except.bind]
  | case4 first second third rest ih =>
  obtain ⟨a,b,c,d,shown,read⟩ := base64_unchunk_chunk (base64_encode rest).isEmpty first (some second) (some third) (by simp) (by simp)
  rw [base64_encode,shown]
  simp [read,base64_chunks,ih,bind,Except.bind]

private theorem base64_encode_length : (base64_encode bytes).length%4 = 0 := by
  induction bytes using base64_encode.induct with
  | case1 => rfl
  | case2 first => simp [base64_encode,base64_chunk]
  | case3 first second => simp [base64_encode,base64_chunk]
  | case4 first second third rest ih =>
  rw [base64_encode,List.length_append]
  have four : (base64_chunk first (some second) (some third)).length = 4 := rfl
  omega

theorem base64_decode_encode : base64_decode (base64_encode bytes) = .ok bytes := by
  rw [base64_decode,if_neg (not_not.mpr (base64_encode_length bytes)),base64_chunks_encode]

end Deepstrike.Scalars
