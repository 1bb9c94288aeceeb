import RequestCheck.Text.Basic

/-!
# Request types

A request type is a token in one of two vocabularies: the unified types of the filter lists, which
the engine understands, and the names that browsers report. A reported name has a unified type;
every other token is passed on as it is.

    normalize t    the unified type of t if t is a reported name, else t
    choices        every accepted token, unified types first
-/

namespace RequestCheck.RequestType

/-- The unified types, in code point order. -/
def unified : List Text :=
  ["beacon", "csp_report", "document", "font", "image", "media", "object", "other", "ping",
    "script", "speculative", "stylesheet", "sub_frame", "web_manifest", "websocket", "xbl", "xhr",
    "xml_dtd", "xslt"]

/-- The reported names with their unified types, in code point order of the names. -/
def reported : List (Text × Text) :=
  [("Attribution resource", "other"), ("Audio", "media"), ("CSS resource", "stylesheet"),
    ("CSS stylesheet", "stylesheet"), ("Dictionary", "other"), ("Document", "document"),
    ("Fetch", "xhr"), ("Font", "font"), ("Icon", "other"), ("Image", "image"),
    ("Internal resource", "other"), ("Link element resource", "other"),
    ("Link prefetch resource", "speculative"), ("Manifest", "web_manifest"), ("Mock", "other"),
    ("Other resource", "other"), ("Processing instruction", "other"),
    ("SVG Use element resource", "media"), ("SVG document", "media"), ("Script", "script"),
    ("SpeculationRule", "speculative"), ("Text track", "other"), ("Track", "other"),
    ("User Agent CSS resource", "stylesheet"), ("Video", "media"), ("XML resource", "document"),
    ("XMLHttpRequest", "xhr"), ("XSL stylesheet", "xslt")]

/-- The names that browsers report, in code point order. -/
def reportedNames : List Text := reported.map (·.1)

/-- The type that the engine is given for a token. Case counts. -/
def normalize (token : Text) : Text := (reported.lookup token).getD token

def choices : List Text := unified ++ reportedNames

end RequestCheck.RequestType
