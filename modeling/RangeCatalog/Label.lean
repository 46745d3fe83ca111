import RangeCatalog.Digest.Sha256
import RangeCatalog.Text.Numeral

/-! # Content labels

A label names the content of a set on a day: the date, a hyphen and sixteen hexadecimal digits. The
digits come from the digest of the range texts, each ended by a newline, followed by the time stamp.
-/

namespace RangeCatalog.Label

def digits : Nat := 16

/-- The text that is digested. A missing time stamp adds nothing. -/
def content (ranges : List String) (stamp : Option String) : String :=
  String.intercalate "\n" ranges ++ "\n" ++ stamp.getD ""

/-- The leading hexadecimal digits of the digest of a text. -/
def fingerprint (text : String) : String :=
  String.ofList (((Sha256.digest text.toUTF8.toList).flatMap hexOctet).take digits)

/-- The label of some ranges and a time stamp on a date. -/
def ofContent (date : String) (ranges : List String) (stamp : Option String) : String :=
  date ++ "-" ++ fingerprint (content ranges stamp)

end RangeCatalog.Label
