import WebDispatch.Text.Percent

/-!
# Form parameters

Parameters as queries and form bodies write them: `name=value` pairs between ampersands, a plus
sign for a space, percent escapes for all else. Reading never fails.
-/

namespace WebDispatch.Http

open WebDispatch.Text

def splitBytes (sep : UInt8) : Bytes → List Bytes
  | [] => [[]]
  | b :: rest =>
    match splitBytes sep rest with
    | [] => [[b]]
    | piece :: pieces => if b = sep then [] :: piece :: pieces else (b :: piece) :: pieces

def formText (bytes : Bytes) : String :=
  decodeLossy (unescapeBytes (bytes.map fun b => if b = 0x2B then 0x20 else b))

/-- One parameter; without an equals sign its value is empty. -/
def formPair (piece : Bytes) : String × String :=
  (formText (piece.takeWhile (· ≠ 0x3D)), formText ((piece.dropWhile (· ≠ 0x3D)).drop 1))

/-- The parameters in order; empty pieces are none. -/
def formParams (bytes : Bytes) : List (String × String) :=
  ((splitBytes 0x26 bytes).filter (!·.isEmpty)).map formPair

end WebDispatch.Http
