import Workbench.Text.Quoted

/-!
# What is wrong with an address

Why a text is no address.
-/
namespace Workbench

/-- Why a text is no address. -/
inductive Url.Fault where
  | tooLong
  /-- A part is too long once it has been escaped. -/
  | longPart (part : String)
  | control (c : Char) (position : Nat)
  | portNumber (text : String)
  | quad (host : String)
  | groups (host : String)
  | name (host : String)
  /-- The path follows a host without a slash. -/
  | bareAfterHost
  /-- The path begins with two slashes, but there is no host. -/
  | doubleSlash
  /-- The path begins with a colon. -/
  | leadingColon
  deriving DecidableEq, Repr

def Url.Fault.message : Url.Fault → String
  | tooLong => "URL too long"
  | longPart part => "URL component '" ++ part ++ "' too long"
  | control c position =>
    "Invalid non-printable ASCII character in URL, " ++ Text.quoted c.toString ++
      " at position " ++ toString position ++ "."
  | portNumber text => "Invalid port: " ++ Text.quoted text
  | quad host => "Invalid IPv4 address: " ++ Text.quoted host
  | groups host => "Invalid IPv6 address: " ++ Text.quoted host
  | name host => "Invalid IDNA hostname: " ++ Text.quoted host
  | bareAfterHost => "For absolute URLs, path must be empty or begin with '/'"
  | doubleSlash => "Relative URLs cannot have a path starting with '//'"
  | leadingColon => "Relative URLs cannot have a path starting with ':'"

end Workbench
