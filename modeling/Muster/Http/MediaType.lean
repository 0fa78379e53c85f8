import Muster.Http.Headers
/-!
Media types, as the field for the type of a body gives them: a type and a subtype, which may end in a
suffix behind a plus sign, and parameters behind semicolons.
-/
namespace Muster.Http

def isTokenChar (c : Char) : Bool :=
  c.isAlphanum || "!#$%&'*+-.^_`|~".toList.contains c

/-- A character that may stand between quotes. -/
def isQuotable (c : Char) : Bool :=
  0x20 ≤ c.toNat && c.toNat ≠ 0x7F

/-- A parameter's value between quotes, from its second character on, and what is behind the closing
quote. The value has at least one character, which may be a quote. -/
def takeQuotedValue : List Char → Option (List Char)
  | first :: rest =>
      let inner := rest.takeWhile fun c => isQuotable c && c ≠ '"'
      if isQuotable first then
        match rest.drop inner.length with
        | '"' :: behind => some behind
        | _ => none
      else none
  | [] => none

/-- Are these the parameters of a media type? There may be spaces before a name and behind a quoted
value, and nothing behind the last semicolon. -/
def areParameters : Nat → List Char → Bool
  | 0, _ => false
  | fuel + 1, text =>
      match text.dropWhile (· = ' ') with
      | [] => true
      | text =>
          let name := text.takeWhile isTokenChar
          match name, text.drop name.length with
          | _ :: _, '=' :: '"' :: rest =>
              match takeQuotedValue rest with
              | none => false
              | some rest =>
                  match rest.dropWhile (· = ' ') with
                  | [] => true
                  | ';' :: rest => areParameters fuel rest
                  | _ => false
          | _ :: _, '=' :: rest =>
              let value := rest.takeWhile isTokenChar
              match value, rest.drop value.length with
              | _, [] => true
              | _ :: _, ';' :: rest => areParameters fuel rest
              | _, _ => false
          | _, _ => false

/-- A media type without its parameters, in lower case. -/
structure MediaType where
  kind : String
  subtype : String
  suffix : Option String
deriving Repr, DecidableEq

/-- A subtype taken apart at its last plus sign, which is not its first character. -/
def splitSuffix (subtype : List Char) : List Char × Option (List Char) :=
  let suffix := (subtype.reverse.takeWhile (· ≠ '+')).reverse
  let rest := subtype.length - suffix.length
  if 1 < rest then (subtype.take (rest - 1), some suffix) else (subtype, none)

def MediaType.ofText? (text : String) : Option MediaType :=
  let cs := text.toList
  let kind := cs.takeWhile isTokenChar
  match kind, cs.drop kind.length with
  | _ :: _, '/' :: rest =>
      let subtype := rest.takeWhile isTokenChar
      let behind := rest.drop subtype.length
      let sound := match subtype, behind with
        | _, [] => true
        | _ :: _, ';' :: parameters => areParameters (parameters.length + 1) parameters
        | _, _ => false
      if sound then
        let (subtype, suffix) := splitSuffix subtype
        let lower (cs : List Char) : String := lowerName (String.ofList cs)
        some ⟨lower kind, lower subtype, suffix.map lower⟩
      else none
  | _, _ => none

/-- Is this the type of JSON texts, or of a format built on them? -/
def MediaType.isJson (media : MediaType) : Bool :=
  media.kind = "application" && (media.subtype = "json" || media.suffix = some "json")

/-- Do the fields say that the body is a JSON text? -/
def Headers.announceJson (headers : Headers) : Bool :=
  ((headers.text? "content-type").bind MediaType.ofText?).any MediaType.isJson

end Muster.Http
