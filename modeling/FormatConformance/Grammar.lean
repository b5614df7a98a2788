/-!
Grammars: the front ends under which an engine can read a fixture, the languages they read, and the
companions a grammar brings along into a test plan.
-/

namespace FormatConformance

inductive Language where
  | javaScript
  | typeScript
  | css
  | json
  | graphQl
  | markdown
  | yaml
  | html
  | vue
  | handlebars
  deriving DecidableEq, Repr

namespace Language

def all : List Language :=
  [javaScript, typeScript, css, json, graphQl, markdown, yaml, html, vue, handlebars]

def extensions : Language → List String
  | javaScript => ["js", "jsx", "mjs", "cjs"]
  | typeScript => ["ts", "tsx", "mts", "cts"]
  | css => ["css", "less", "scss", "pcss"]
  | json => ["json", "json5"]
  | graphQl => ["graphql", "gql"]
  | markdown => ["md", "markdown", "mdx"]
  | yaml => ["yaml", "yml"]
  | html => ["html", "htm"]
  | vue => ["vue"]
  | handlebars => ["hbs", "handlebars"]

/-- The language whose files have the extension. No extension belongs to two languages. -/
def ofExtension? (extension : String) : Option Language :=
  all.find? fun language => language.extensions.contains extension

end Language

inductive Grammar where
  | babel
  | babelFlow
  | babelTs
  | babelEstree
  | flow
  | typescript
  | espree
  | meriyah
  | acorn
  | css
  | less
  | scss
  | json
  | json5
  | jsonStringify
  | graphql
  | markdown
  | mdx
  | yaml
  | html
  | vue
  | angular
  | lwc
  | glimmer
  deriving DecidableEq, Repr

namespace Grammar

def all : List Grammar :=
  [babel, babelFlow, babelTs, babelEstree, flow, typescript, espree, meriyah, acorn, css, less,
    scss, json, json5, jsonStringify, graphql, markdown, mdx, yaml, html, vue, angular, lwc,
    glimmer]

def name : Grammar → String
  | babel => "babel"
  | babelFlow => "babel-flow"
  | babelTs => "babel-ts"
  | babelEstree => "__babel_estree"
  | flow => "flow"
  | typescript => "typescript"
  | espree => "espree"
  | meriyah => "meriyah"
  | acorn => "acorn"
  | css => "css"
  | less => "less"
  | scss => "scss"
  | json => "json"
  | json5 => "json5"
  | jsonStringify => "json-stringify"
  | graphql => "graphql"
  | markdown => "markdown"
  | mdx => "mdx"
  | yaml => "yaml"
  | html => "html"
  | vue => "vue"
  | angular => "angular"
  | lwc => "lwc"
  | glimmer => "glimmer"

def ofName? (name : String) : Option Grammar := all.find? fun grammar => grammar.name == name

def unknownName (name : String) : String := "unknown parser \x60" ++ name ++ "\x60"

def reads : Grammar → Language → Bool
  | typescript, language | babelTs, language =>
    language == .typeScript || language == .javaScript
  | babel, language | babelFlow, language | babelEstree, language | flow, language
  | espree, language | meriyah, language | acorn, language => language == .javaScript
  | css, language | less, language | scss, language => language == .css
  | json, language | json5, language | jsonStringify, language => language == .json
  | graphql, language => language == .graphQl
  | markdown, language | mdx, language => language == .markdown
  | yaml, language => language == .yaml
  | html, language | angular, language | lwc, language => language == .html
  | vue, language => language == .vue
  | glimmer, language => language == .handlebars

def untyped : Grammar → Option Grammar
  | typescript => some babelTs
  | _ => none

/-- The other general purpose grammars, in the order in which they join a plan. -/
def alternates : Grammar → List Grammar
  | babel => [espree, meriyah, acorn]
  | _ => []

def reshaped : Grammar → Option Grammar
  | babel => some babelEstree
  | _ => none

def inferredFor : Language → Grammar
  | .javaScript => babel
  | .typeScript => typescript
  | .css => css
  | .json => json
  | .graphQl => graphql
  | .markdown => markdown
  | .yaml => yaml
  | .html => html
  | .vue => vue
  | .handlebars => glimmer

def label : Option Grammar → String
  | some grammar => grammar.name
  | none => "inferred"

theorem name_injective {a b : Grammar} (h : a.name = b.name) : a = b := by
  cases a <;> cases b <;> first | rfl | exact absurd h (by decide)

theorem ofName?_eq_some_iff {name : String} {g : Grammar} :
    ofName? name = some g ↔ g.name = name := by
  constructor
  · intro h
    simpa using List.find?_some h
  · rintro rfl
    cases g <;> decide +kernel

end Grammar

end FormatConformance
