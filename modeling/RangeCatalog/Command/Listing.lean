import RangeCatalog.Command.Basic
import RangeCatalog.Source

/-! # Listings

The table of sources as it is printed: columns of fixed width under a ruled heading, and below each row
the URL of the source under its label column.
-/

namespace RangeCatalog.Listing

def widths : List Nat := [22, 8, 24]

def padded (width : Nat) (text : String) : String :=
  text ++ String.ofList (List.replicate (width - text.length) ' ')

def row : (widths : List Nat) → (cells : List String) → String
  | width :: widths, cell :: next :: cells => " " ++ padded width cell ++ row widths (next :: cells)
  | _, cells => " " ++ String.intercalate " " cells

/-- The heading and the rule under it. -/
def heading : List String :=
  [row widths ["SET ID", "PROVIDER", "PARSER", "LABEL"],
    row widths ((widths ++ [20]).map fun width => String.ofList (List.replicate width '─'))]

/-- How a layout is named, with the array that it reads. -/
def layoutText (layout : Layout) : String :=
  match layout.key? with
  | some key => layout.name ++ " (" ++ key ++ ")"
  | none => layout.name

def sourceLines (source : Source) : List String :=
  [row widths [source.setId, source.provider, layoutText source.layout, source.label],
    row widths ["", source.url]]

def table (sources : List Source) : String :=
  textOfLines ([""] ++ heading ++ sources.flatMap sourceLines ++ [""])

end RangeCatalog.Listing
