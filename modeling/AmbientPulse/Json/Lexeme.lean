import AmbientPulse.Json.Fault

namespace AmbientPulse.Json

def isSpace (c : Char) : Bool :=
  c == ' ' || c == '\t' || c == '\n' || c == '\r'

def skipSpace (cs : List Char) : List Char :=
  cs.dropWhile isSpace

def readWord : List Char → List Char → Except Fault (List Char)
  | [], cs => .ok cs
  | _ :: _, [] => .error .cut
  | w :: ws, c :: cs => if c = w then readWord ws cs else .error .malformed

def readColon (cs : List Char) : Except Fault (List Char) :=
  match skipSpace cs with
  | [] => .error .cut
  | ':' :: cs => .ok cs
  | _ :: _ => .error .malformed

end AmbientPulse.Json
