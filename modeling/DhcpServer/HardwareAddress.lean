import DhcpServer.HexText

/-!
# Hardware addresses as text

A hardware address is shown as two hexadecimal digits for each octet, with
single colons between the octets.
-/

namespace DhcpServer.HardwareAddress

/-- The text of a hardware address of any length. -/
def text : Bytes → List Char
  | [] => []
  | [b] => HexText.octet b
  | b :: c :: bs => HexText.octet b ++ ':' :: text (c :: bs)

/-- Three characters for each octet, but no colon after the last. -/
theorem length_text (bs : Bytes) : (text bs).length = 3 * bs.length - 1 := by
  induction bs with
  | nil => rfl
  | cons b bs ih =>
    cases bs with
    | nil => rfl
    | cons c bs =>
      simp only [text, List.length_append, List.length_cons, ih]
      simp only [HexText.octet, List.length_cons, List.length_nil]
      omega

end DhcpServer.HardwareAddress
