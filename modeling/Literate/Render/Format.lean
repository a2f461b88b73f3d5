import Literate.Render.Blocks
import Literate.Render.Markup
import Literate.Settings

/-! The formats of output. -/

namespace Literate

inductive Format where
  | markdown | mdx | json
  deriving DecidableEq, Repr, Inhabited

namespace Format

/-- in the order of their names -/
def all : List Format := [json, markdown, mdx]

/-- the name that a format is chosen by -/
def key : Format → String
  | markdown => "markdown"
  | mdx => "mdx"
  | json => "json"

def ofKey? (s : String) : Option Format := all.find? (·.key = s)

def title : Format → String
  | markdown => "Markdown"
  | mdx => "MDX"
  | json => "JSON"

/-- suffix of output files -/
def suffix : Format → String
  | markdown => ".md"
  | mdx => ".mdx"
  | json => ".json"

def mediaType : Format → String
  | markdown => "text/markdown"
  | mdx => "text/mdx"
  | json => "application/json"

end Format

/-- a format with the wrappers around its listings -/
inductive Renderer where
  | markup (format : Format) (dialect : Dialect) (start stop : Wording)
  | blocks

namespace Renderer

/-- wrappers that are asked for win over the settings -/
def ofFormat (settings : Settings) (start stop : Option Wording) (f : Format) : Renderer :=
  let (s, e) := settings.wrappers f.key
  match f with
  | .json => blocks
  | .markdown => markup f Dialect.html (start.getD s) (stop.getD e)
  | .mdx => markup f Dialect.jsx (start.getD s) (stop.getD e)

def format : Renderer → Format
  | markup f _ _ _ => f
  | blocks => .json

def block (d : Dialect) (start stop : Wording) : Block → Wording
  | .code runs => start ++ .char '\n' :: d.listing runs ++ stop ++ [.char '\n']
  | .prose s => s ++ [.char '\n']

/-- the text of a document; only the JSON format can refuse one -/
def render (r : Renderer) (d : Document) : Except Breach Wording :=
  match r with
  | markup _ dialect start stop => .ok (d.blocks.flatMap (block dialect start stop))
  | blocks => Blocks.render d

end Renderer
end Literate
