/-!
# Field names

A field below the top level has two names.  A *path* names it where queries are written:
its segments are joined with dots, as in `author.address.city`.  A *flat name* names it
where documents are stored: its pieces are joined with two underscores, as in
`author__address__city`.  Cutting a flat name is ambiguous when a piece holds
underscores of its own, so the rule is fixed here: the delimiter is searched from the
left, and what has been matched is not used again.
-/
namespace SearchGateway.FieldName

/-- What joins the pieces of a flat name. -/
def delimiter : String := "__"

/-- The pieces between the delimiters, which are found from the left without overlap.
There is always at least one piece. -/
def pieces : List Char → List (List Char)
  | [] => [[]]
  | '_' :: '_' :: rest => [] :: pieces rest
  | c :: rest =>
    match pieces rest with
    | [] => [[c]]
    | first :: others => (c :: first) :: others

/-- The pieces of a flat name. -/
def parts (name : String) : List String := (pieces name.toList).map String.ofList

/-- The flat name made of some pieces. -/
def joined (parts : List String) : String := delimiter.intercalate parts

/-- The flat name of a field inside the object that has the flat name `parent`; a field at
the top has its own name. -/
def below (parent : Option String) (name : String) : String :=
  match parent with
  | none => name
  | some parent => parent ++ delimiter ++ name

/-- The segments of a path, between its dots. -/
def segments (path : String) : List String := (path.toList.splitOn '.').map String.ofList

/-- The flat name that stands for a path: each dot becomes the delimiter. -/
def ofPath (path : String) : String :=
  String.ofList (path.toList.flatMap fun c => if c = '.' then delimiter.toList else [c])

end SearchGateway.FieldName
