import WebDispatch.Http.Header
import WebDispatch.Text.Utf8

/-!
# Responses

A status code, header fields and a body of bytes.
-/

namespace WebDispatch.Http

open WebDispatch.Text (Bytes)

def reason? : Nat → Option String
  | 403 => some "Forbidden"
  | 404 => some "Not Found"
  | 500 => some "Internal Server Error"
  | _ => none

structure Response where
  status : Nat := 200
  headers : Headers := []
  body : Bytes := []
deriving DecidableEq, Repr, Inhabited

namespace Response

def plainText : String := "text/plain; charset=UTF-8"

def ofStatus (status : Nat) : Response := { status := status }

def setHeader (r : Response) (name value : String) : Response :=
  { r with headers := r.headers.set name value }

def setField (r : Response) (name value : String) : Response :=
  { r with headers := r.headers.setField name value }

def setContentType (r : Response) (type : String) : Response := r.setHeader "content-type" type

/-- The content type, if it is set to readable text. -/
def contentType? (r : Response) : Option String := r.headers.text? "content-type"

/-- Sets the content type of a response that has none. -/
def defaultContentType (r : Response) (type : String) : Response :=
  if r.contentType?.isSome then r else r.setContentType type

def setText (r : Response) (s : String) : Response := { r with body := Text.encode s }

def ofText (s : String) : Response := (({} : Response).setContentType plainText).setText s

def text (r : Response) : String := Text.decodeLossy r.body

end Response

end WebDispatch.Http
