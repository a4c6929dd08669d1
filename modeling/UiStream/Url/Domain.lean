import UiStream.Text.Utf8
import UiStream.Url.Address
import UiStream.Url.Label

/-!
# Names of hosts

The host of a web address is a domain, whose labels are joined by dots, or an address.  Percent
signs introduce bytes, the text of the bytes is put into the spelling of domains, and each part
between dots must stand for a label.
-/

namespace UiStream.Url

/-! ## Bytes -/

/-- The bytes of a text in which a percent sign introduces a byte by two digits. -/
def percentDecoded : List Char → List UInt8
  | [] => []
  | '%' :: high :: low :: rest =>
    match digitValue? 16 high, digitValue? 16 low with
    | some h, some l => UInt8.ofNat (h * 16 + l) :: percentDecoded rest
    | _, _ => String.utf8EncodeChar '%' ++ percentDecoded (high :: low :: rest)
  | c :: rest => String.utf8EncodeChar c ++ percentDecoded rest

/-! ## Hosts -/

/-- Whether a text is a domain or an IPv4 address. -/
def isDomain (text : List Char) : Bool :=
  match respelled? (Utf8.decodeLossy (percentDecoded text)) with
  | none | some [] => false
  | some name =>
    match (splitOn '.' name).mapM plainLabel? with
    | none => false
    | some labels =>
      (!labels.any hasRightToLeft || labels.all isOneWay) &&
        (!endsInNumber labels || isIpv4 labels)

/-- Whether a text is an IPv6 address in brackets. -/
def isBracketed (text : List Char) : Bool :=
  text.getLast? == some ']' && isIpv6 (text.drop 1).dropLast

/-- Whether a text is the host of a web address. -/
def isHost (text : List Char) : Bool :=
  if text.head? = some '[' then isBracketed text else isDomain text

/-- Whether a text is a host under a scheme that gives no meaning to it. -/
def isOpaqueHost (text : List Char) : Bool :=
  if text.head? = some '[' then isBracketed text
  else !text.any ("\x00\t\n\r #/:<>?@[\\]^|".toList.contains ·)

end UiStream.Url
