import LogPipe.Query.Block
import LogPipe.Query.Split

/-!
# Directives

A directive is one stage of a pipeline. Its keyword may be written in any letter case, and
some have a second keyword. A segment that is an assignment is an `eval` without its
keyword, and one that starts with backquotes is a macro call.
-/

namespace LogPipe

open LogPipe.Query LogPipe.Text

/-- The directives. -/
inductive Directive where
  | search
  | whereRows
  | eval
  | stats
  | eventStats
  | streamStats
  | timechart
  | rename
  | fields
  | makeTable
  | lookup
  | inputLookup
  | outputLookup
  | head
  | bin
  | reverse
  | dedup
  | sort
  | rex
  | regex
  | base64
  | fillNull
  | join
  | append
  | appendPipe
  | multiSearch
  | coalesce
  | mvExpand
  | mvJoin
  | mvIndex
  | mvCount
  | mvDistinct
  | mvFind
  | mvZip
  | mvReverse
  | mvCombine
  | mvDedup
  | mvAppend
  | mvFilter
  | spath
  | fieldSummary
  | macroCall
deriving DecidableEq, Repr

namespace Directive

/-- The name of a directive, which is also its first keyword. A macro call has no keyword. -/
def name : Directive → String
  | search => "search"
  | whereRows => "where"
  | eval => "eval"
  | stats => "stats"
  | eventStats => "eventstats"
  | streamStats => "streamstats"
  | timechart => "timechart"
  | rename => "rename"
  | fields => "fields"
  | makeTable => "maketable"
  | lookup => "lookup"
  | inputLookup => "inputlookup"
  | outputLookup => "outputlookup"
  | head => "head"
  | bin => "bin"
  | reverse => "reverse"
  | dedup => "dedup"
  | sort => "sort"
  | rex => "rex"
  | regex => "regex"
  | base64 => "base64"
  | fillNull => "fillnull"
  | join => "join"
  | append => "append"
  | appendPipe => "appendpipe"
  | multiSearch => "multisearch"
  | coalesce => "coalesce"
  | mvExpand => "mvexpand"
  | mvJoin => "mvjoin"
  | mvIndex => "mvindex"
  | mvCount => "mvcount"
  | mvDistinct => "mvdc"
  | mvFind => "mvfind"
  | mvZip => "mvzip"
  | mvReverse => "mvreverse"
  | mvCombine => "mvcombine"
  | mvDedup => "mvdedup"
  | mvAppend => "mvappend"
  | mvFilter => "mvfilter"
  | spath => "spath"
  | fieldSummary => "fieldsummary"
  | macroCall => "macro"

/-- The directives that have a keyword. -/
def keyworded : List Directive :=
  [search, whereRows, eval, stats, eventStats, streamStats, timechart, rename, fields, makeTable,
    lookup, inputLookup, outputLookup, head, bin, reverse, dedup, sort, rex, regex, base64,
    fillNull, join, append, appendPipe, multiSearch, coalesce, mvExpand, mvJoin, mvIndex, mvCount,
    mvDistinct, mvFind, mvZip, mvReverse, mvCombine, mvDedup, mvAppend, mvFilter, spath,
    fieldSummary]

/-- All keywords, each in lower case. -/
def keywords : List (String × Directive) :=
  (keyworded.map fun directive => (directive.name, directive)) ++
    [("table", fields), ("limit", head)]

/-- The directive of a keyword. -/
def ofKeyword? (keyword : String) : Option Directive :=
  keywords.lookup (asciiLower keyword)

/-- The name of a directive in stored data: its words joined by underscores. -/
def storedName : Directive → String
  | eventStats => "event_stats"
  | streamStats => "stream_stats"
  | makeTable => "make_table"
  | inputLookup => "input_lookup"
  | outputLookup => "output_lookup"
  | fillNull => "fill_null"
  | appendPipe => "append_pipe"
  | multiSearch => "multi_search"
  | mvExpand => "mv_expand"
  | mvJoin => "mv_join"
  | mvIndex => "mv_index"
  | mvCount => "mv_count"
  | mvDistinct => "mv_dc"
  | mvFind => "mv_find"
  | mvZip => "mv_zip"
  | mvReverse => "mv_reverse"
  | mvCombine => "mv_combine"
  | mvDedup => "mv_dedup"
  | mvAppend => "mv_append"
  | mvFilter => "mv_filter"
  | spath => "s_path"
  | fieldSummary => "field_summary"
  | directive => directive.name

end Directive

/-- A directive with its arguments, as tokens and as text. -/
structure Invocation where
  directive : Directive
  keyword : Token
  arguments : List Token
  text : String
deriving DecidableEq, Repr

namespace Invocation

/-- Whether a token is a macro call. -/
def isMacroCall (token : Token) : Bool :=
  token.kind == .quotedLiteral && token.value.toList.head? == some '\x60'

/-- Whether a text assigns something to a plain name. -/
def isAssignment (text : String) : Bool :=
  (splitAssignment text).any fun (field, formula) => isPlainName field && !formula.isEmpty

/-- The directive that a keyword token calls. -/
def directive? (token : Token) : Option Directive :=
  if isMacroCall token then some .macroCall
  else if token.kind == .identifier then Directive.ofKeyword? token.value
  else none

/-- The invocation that a segment is. -/
def ofSegment? (segment : Segment) : Option Invocation :=
  segment.keyword?.bind fun keyword =>
    match directive? keyword with
    | some directive => some ⟨directive, keyword, segment.arguments, segment.argumentText⟩
    | none =>
        if isAssignment segment.text then some ⟨.eval, keyword, segment.tokens, segment.text⟩
        else none

end Invocation

/-- The keyword of a segment as written. -/
def Query.Segment.keywordText (segment : Segment) : String :=
  (segment.keyword?.map Token.value).getD ""

end LogPipe
