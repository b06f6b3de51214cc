/-!
# The text scanner (`scanner.c`)
-/

namespace Pjsip.PjlibUtil.Scanner

/-- The loop of `pj_scan_get_quotes` for the quote `"`, behind the first one: the token and what is
left. `odd` means that an odd number of backslashes stands before. -/
def quoteLoop : (odd : Bool) → List UInt8 → Option (List UInt8 × List UInt8)
  | _, [] => none
  | odd, c :: rest =>
    if c = 10 then none
    else if c = 34 ∧ odd = false then some ([c], rest)
    else (quoteLoop (c = 92 && !odd) rest).map fun found => (c :: found.1, found.2)

end Pjsip.PjlibUtil.Scanner
