import Literate.Text.Case
import Literate.Text.Code

/-! Settings that come from the environment, and the wrappers around listings. -/

namespace Literate

structure Settings where
  /-- format of the output when none is asked for -/
  format : String := "mdx"
  /-- names of output files start with the date -/
  datePrefix : Bool := false
  logLevel : String := "WARNING"
  wrapperStart : Option Wording := none
  wrapperEnd : Option Wording := none
  deriving DecidableEq, Repr, Inhabited

namespace Settings

def ofVariables (value : String → Option String) : Settings where
  format := (value "CIRE_DEFAULT_FORMAT").getD "mdx"
  datePrefix := Text.fold ((value "CIRE_DATE_PREFIX").getD "false") = "true"
  logLevel := Text.upper ((value "CIRE_LOG_LEVEL").getD "WARNING")
  wrapperStart := (value "CIRE_CODE_WRAPPER_START").map codes
  wrapperEnd := (value "CIRE_CODE_WRAPPER_END").map codes

/-- what formats put around a listing by themselves -/
def defaultWrappers : List (String × Wording × Wording) :=
  [("markdown", "<pre><code class=\"cire\">", "</code></pre>"),
    ("mdx",
      codes ("<details open=\"true\">\n<summary>Expand to view code</summary>\n" ++
        "<pre className=\"cire\"><code>"),
      "</code></pre>\n</details>")]

/-- the environment wins over the format -/
def wrappers (s : Settings) (format : String) : Wording × Wording :=
  let (start, stop) := (defaultWrappers.lookup format).getD ([], [])
  (s.wrapperStart.getD start, s.wrapperEnd.getD stop)

end Settings
end Literate
