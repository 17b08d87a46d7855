import PrefixCalc.Web.Message

/-!
# Documentation

An application is documented by a description of its routes, which is JSON, and by pages for people,
which show the description. What stands there is written by a library of which nothing is known but
what is asked of it here (`Documentation`); the application gives its title and its version.

The description is made when it is asked for the first time, and kept.

## Main definitions

* `Route`, `Endpoint`: paths, and the methods that they are asked for by.
* `Documentation`: what a library makes of a title and a version.
* `Documentation.endpoints`: the paths of the documentation.
-/

namespace PrefixCalc.Web

/-! ### Paths -/

/-- A path and what answers it. -/
structure Route where
  path : String
  handler : Handler

/-- The path of a request is that of a route; a line end behind it does not matter. -/
def Route.accepts (route : Route) (path : String) : Bool :=
  path == route.path || path == route.path ++ "\n"

/-- A path, what answers it, and by which methods it may be asked for. -/
structure Endpoint extends Route where
  methods : List String

/-! ### Documentation -/

/-- The pages for people. -/
inductive Page where
  /-- One to try the routes on. -/
  | console
  /-- The one that a user of the console is sent back to by those who know the user. -/
  | redirection
  /-- One to read. -/
  | reference
  deriving DecidableEq, Repr

/-- The path of a page. -/
def Page.path : Page → String
  | .console => "/docs"
  | .redirection => "/docs/oauth2-redirect"
  | .reference => "/redoc"

/-- What a library makes of the title and the version of an application. -/
structure Documentation where
  /-- The description, by title and version. -/
  describe : String → String → Json
  /-- The text of a page, by title. -/
  page : Page → String → String
  /-- The methods for its paths, in the order in which they are told. -/
  methods : List String
  /-- A description is read back from its text. -/
  read_describe : ∀ title version body, (describe title version).write = .ok body →
    Json.read body = .ok (describe title version)
  /-- A description is not that of an error. -/
  errorless : ∀ title version, (describe title version).get? "error" = none
  /-- A page is no JSON. -/
  malformed : ∀ p title j, Json.read (page p title) ≠ .ok j
  /-- What may be asked for may be asked for without its body, and there is no other method. -/
  perm_methods : methods.Perm ["GET", "HEAD"]

namespace Documentation

/-- A documentation that says nothing, for applications whose documentation is not looked at. -/
def blank : Documentation where
  describe _ _ := .object []
  page _ _ := ""
  methods := ["GET", "HEAD"]
  read_describe := by
    rintro - - body hbody
    cases hbody
    rfl
  errorless _ _ := rfl
  malformed := by
    rintro - - j hj
    cases hj
  perm_methods := .refl _

theorem mem_methods_iff {d : Documentation} {method : String} :
    method ∈ d.methods ↔ method = "GET" ∨ method = "HEAD" := by
  rw [d.perm_methods.mem_iff]
  simp

/-- The path of the description. -/
def descriptionPath : String := "/openapi.json"

/-- Answers with a description, which is kept. -/
def description (d : Json) : Handler := fun _ _ =>
  { Reply.json 200 d with keeps := some d }

/-- Answers with a page. -/
def shownPage (text : String) : Handler := fun _ _ =>
  { answer := .ok
      { status := 200
        headers := [("content-type", "text/html; charset=utf-8")]
        body := text } }

/-- The paths of the documentation of an application with a title and a description. -/
def endpoints (d : Documentation) (title : String) (described : Json) : List Endpoint :=
  { path := descriptionPath, handler := description described, methods := d.methods } ::
    [Page.console, Page.redirection, Page.reference].map fun p =>
      { path := p.path, handler := shownPage (d.page p title), methods := d.methods }

end Documentation

end PrefixCalc.Web
