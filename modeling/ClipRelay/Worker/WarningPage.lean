import ClipRelay.Text.Case
import ClipRelay.Text.Search

/-!
# Warning pages

A tunnel answers a client that it does not know with an HTML page that warns of the site behind it.
A body that is no JSON is such a page when it holds the mark of an HTML document, or names the tunnel
along with one of the words of its warning, in any case.
-/

namespace ClipRelay.WarningPage

/-- What an HTML document starts with. -/
def documentMarks : List String := ["<!doctype html", "<html"]

def tunnelName : String := "ngrok"

/-- What the tunnel warns of. -/
def warningWords : List String := ["warning", "browser", "potential threat"]

/-- The page is an HTML document or a warning of the tunnel; it is given in lower case. -/
def marked (page : String) : Bool :=
  documentMarks.any (Text.holds page)
    || (Text.holds page tunnelName && warningWords.any (Text.holds page))

/-- A body that is no JSON is a warning page. -/
def recognizes (body : String) : Bool := marked (Text.lower body)

end ClipRelay.WarningPage
