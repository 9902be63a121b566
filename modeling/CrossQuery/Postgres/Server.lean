import CrossQuery.Text.Blank
import CrossQuery.Text.Search

/-!
# Texts from and for a PostgreSQL server

What the code of a server error means, where in a statement an error is, and the certificates in a
file.
-/

set_option autoImplicit false

namespace CrossQuery.Postgres

/-- What kind of failure a server reports. -/
inductive ServerError where
  | connection
  | cancelled
  | execution
deriving DecidableEq

/-- The kind of failure that an error code stands for: the class of connection exceptions and the
shutdown of the server, a statement that was cancelled, and all others. -/
def ServerError.ofCode (code : String) : ServerError :=
  if code = "57014" then .cancelled
  else if code = "57P01" ∨ code = "57P02" ∨ code = "57P03" then .connection
  else if ['0', '8'].isPrefixOf code.toList then .connection
  else .execution

/-- A place in a text, counted from one. -/
structure Place where
  line : Nat
  column : Nat
deriving DecidableEq

def Place.after (place : Place) (c : Char) : Place :=
  if c = '\n' then ⟨place.line + 1, 1⟩ else ⟨place.line, place.column + 1⟩

/-- The place behind the characters of a text that begin within a number of bytes. -/
def Place.advance (place : Place) (bytes : Nat) : List Char → Place
  | [] => place
  | c :: rest =>
    if bytes = 0 then place else (place.after c).advance (bytes - c.utf8Size) rest

/-- The place of a position, which is counted in bytes from one. -/
def placeOf (text : String) (position : Nat) : Place :=
  Place.advance ⟨1, 1⟩ (position - 1) text.toList

/-- The mark at the beginning of a certificate. -/
def beginMark : List Char :=
  "-----BEGIN CERTIFICATE-----".toList

/-- The mark at the end of a certificate. -/
def endMark : List Char :=
  "-----END CERTIFICATE-----".toList

/-- The certificates in lines, given what was read of one that has begun. A certificate that
begins anew forgets what was read, and one that does not end is left out. -/
def certificatesIn : Option (List Char) → List (List Char) → List (List Char)
  | _, [] => []
  | reading, line :: rest =>
    let reading := if Text.occurs beginMark line then some [] else reading
    let reading := reading.map fun read => read ++ Text.trim line ++ ['\n']
    match reading with
    | some certificate =>
      if Text.occurs endMark line then certificate :: certificatesIn none rest
      else certificatesIn reading rest
    | none => certificatesIn none rest

/-- The certificates in a text, with the blanks around their lines removed. -/
def certificates (text : String) : List String :=
  (certificatesIn none (Text.splitAt '\n' text.toList)).map String.ofList

end CrossQuery.Postgres
