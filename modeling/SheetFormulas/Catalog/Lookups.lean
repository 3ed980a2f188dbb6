import SheetFormulas.Catalog.Answer
import SheetFormulas.Lookup.Grid
import SheetFormulas.Lookup.Keyed
import SheetFormulas.Reference

/-!
The entries for lookups and references.
-/

namespace SheetFormulas.Catalog

open Entry Parameter

def lookups : List Entry := [
  fixed "VLOOKUP"
    [required "lookup_value", required "table_array", required "col_index_num",
      optional "range_lookup" (.bool true)]
    fun _ lookup table index isSorted _ => answer (Lookup.vertical lookup table index isSorted),
  fixed "HLOOKUP"
    [required "lookup_value", required "table_array", required "row_index_num",
      optional "range_lookup" (.bool true)]
    fun _ lookup table index isSorted _ => answer (Lookup.horizontal lookup table index isSorted),
  fixed "INDEX" [required "array", required "row_num", optional "column_num" .empty]
    fun _ array row column _ => answer (Lookup.index array row column),
  fixed "MATCH"
    [required "lookup_value", required "lookup_array", optional "match_type" (.ofInt 1)]
    fun _ lookup line type _ => answer (Lookup.matchPosition lookup line type),
  fixed "XMATCH"
    [required "lookup_value", required "lookup_array", optional "match_mode" (.ofInt 0),
      optional "search_mode" (.ofInt 1)]
    fun _ lookup line mode search _ => answer (Lookup.matchPositionBy lookup line mode search),
  seeingErrors <| fixed "XLOOKUP"
    [required "lookup_value", required "lookup_array", required "return_array",
      optional "if_not_found" .empty, optional "match_mode" (.ofInt 0),
      optional "search_mode" (.ofInt 1)]
    fun _ lookup line results otherwise mode search _ =>
      answer (Lookup.lookupBy lookup line results otherwise mode search),
  fixed "LOOKUP"
    [required "lookup_value", required "lookup_vector", optional "result_vector" .empty]
    fun _ lookup line results _ => answer (Lookup.sortedLookup lookup line results),
  fixed "OFFSET"
    [required "reference", required "rows", required "cols", optional "height" .empty,
      optional "width" .empty]
    fun _ reference rows columns height width _ =>
      answer (Lookup.offset reference rows columns height width),
  fixed "INDIRECT" [required "ref_text", optional "a1" (.bool true)]
    fun _ text isLettered _ => answer (Reference.canonical text isLettered)]

end SheetFormulas.Catalog
