/-
The kinds of annotation and their keywords.
The set of kinds is closed: a keyword outside it is kept as written, so that a diagnostic can quote
it. Reading the keyword of a known kind gives that kind back.
-/

namespace ApiNotes

/-- What an annotation says. -/
inductive Kind where
  | title
  | description
  | version
  | filename
  | url
  | urlVariable
  | code
  | route
  | beginHandler
  | method
  | summary
  | handlerDescription
  | tags
  | body
  | query
  | response
  | endHandler
  /-- A keyword outside the language of annotations. -/
  | unknown (keyword : String)
deriving DecidableEq, Repr

namespace Kind

/-- The keyword of a kind. -/
def keyword : Kind → String
  | title => "title"
  | description => "description"
  | version => "version"
  | filename => "filename"
  | url => "url"
  | urlVariable => "urlvar"
  | code => "code"
  | route => "route"
  | beginHandler => "begin"
  | method => "method"
  | summary => "summary"
  | handlerDescription => "desc"
  | tags => "tags"
  | body => "body"
  | query => "query"
  | response => "response"
  | endHandler => "end"
  | unknown keyword => keyword

/-- The known kinds. -/
def known : List Kind :=
  [title, description, version, filename, url, urlVariable, code, route, beginHandler, method,
   summary, handlerDescription, tags, body, query, response, endHandler]

/-- The kind that a keyword stands for. -/
def ofKeyword (keyword : String) : Kind :=
  (known.find? (·.keyword == keyword)).getD (unknown keyword)

/-- Whether the kind belongs to the language of annotations. -/
def isKnown : Kind → Bool
  | unknown _ => false
  | _ => true

/-- Whether the kind describes a handler, and so stands between `begin` and `end` only. -/
def isHandlerField : Kind → Bool
  | method | summary | handlerDescription | tags | body | query | response => true
  | _ => false

end Kind

end ApiNotes
