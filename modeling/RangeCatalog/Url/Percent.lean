import RangeCatalog.Text.Numeral

/-! # Percent encoding

An octet may be written as a percent sign and two hexadecimal digits. Each part of a URL has its own
set of characters of ASCII that must be written so; characters outside ASCII always are, octet by octet
in UTF-8.
-/

namespace RangeCatalog.Url

abbrev EncodeSet := Char → Bool

namespace EncodeSet

/-- The control characters, which are encoded everywhere. -/
def controls : EncodeSet := fun c => c.toNat < 0x20 || c.toNat == 0x7f

def adding (set : EncodeSet) (more : String) : EncodeSet := fun c => set c || more.toList.contains c

def fragment : EncodeSet := controls.adding " \"<>`"

def path : EncodeSet := fragment.adding "#?\x7b\x7d"

def userInfo : EncodeSet := path.adding "/:;=@[\\]^|"

/-- The set of queries, which for special schemes has an apostrophe too. -/
def query (special : Bool) : EncodeSet :=
  controls.adding (if special then " \"#<>'" else " \"#<>")

end EncodeSet

/-- An octet as a percent sign and two upper-case digits. -/
def percentOctet (octet : UInt8) : List Char :=
  '%' :: (hexOctet octet).map Char.toUpper

/-- Writes a text with the characters of a set encoded. -/
def percentEncode (set : EncodeSet) (chars : List Char) : List Char :=
  chars.flatMap fun c =>
    if c.toNat < 0x80 && !set c then [c] else (String.utf8EncodeChar c).flatMap percentOctet

/-- The octets of a text in which some of them may be encoded. -/
def percentDecode : List Char → List UInt8
  | [] => []
  | '%' :: high :: low :: rest =>
    match digitValue? 16 high, digitValue? 16 low with
    | some h, some l => UInt8.ofNat (h * 16 + l) :: percentDecode rest
    | _, _ => 0x25 :: percentDecode (high :: low :: rest)
  | c :: rest => String.utf8EncodeChar c ++ percentDecode rest

end RangeCatalog.Url
