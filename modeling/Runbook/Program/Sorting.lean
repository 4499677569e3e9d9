import Runbook.Program.SortKey

/-!
# Lines in order

Programs that put lines in order, and those that read lines which are in order.
-/

namespace Runbook.Program.Tool

/-- The keys of a call of the sorting program, of which those that say nothing about their manner
take the common one. -/
def sortKeys (options : Options) : Except String (List SortKey) := do
  let letters := options.given.flatMap fun (key, value?) =>
    if key == "sort" then
      match value?.getD "" with
      | "general-numeric" => ['g']
      | "human-numeric" => ['h']
      | "month" => ['M']
      | "numeric" => ['n']
      | "random" => ['R']
      | _ => ['V']
    else key.toList.filter "bdfghiMnRrV".toList.contains
  let common := letters.foldl (fun (manner : SortKey.Manner) letter =>
    let manner := if letter = 'b' then { manner with blanksAtEnd := true } else manner
    (manner.with? false letter).getD manner) .usual
  let given ← (options.values "k").mapM SortKey.read
  let keys := given.map fun key =>
    if key.manner.isUsual then { key with manner := common } else key
  if keys.isEmpty then return [⟨0, 0, none, common⟩] else return keys

/-- The byte between fields, if one is given. -/
def sortTab (options : Options) : Except String (Option UInt8) :=
  match options.value? "t" with
  | none => .ok none
  | some text =>
    match Text.Octets.toBytes text with
    | [byte] => .ok (some byte)
    | [] => .error "empty tab"
    | bytes =>
      if text = "\\0" then .ok (some 0)
      else .error ("multi-character tab " ++ Mention.marked (Text.Octets.ofBytes bytes))

/-- The first line of each row of equal ones. -/
def firstOfEach (same : List UInt8 → List UInt8 → Bool) : (last? : Option (List UInt8)) →
    List (List UInt8) → List (List UInt8)
  | _, [] => []
  | last?, line :: lines =>
    if last?.any (same · line) then firstOfEach same last? lines
    else line :: firstOfEach same (some line) lines

/-- The number of the first line that stands in the wrong place, and the line. -/
def disorder? (wrong : List UInt8 → List UInt8 → Bool) : (number : Nat) → List (List UInt8) →
    Option (Nat × List UInt8)
  | number, first :: second :: lines =>
    if wrong first second then some (number + 1, second)
    else disorder? wrong (number + 1) (second :: lines)
  | _, _ => none

/-- Write lines in order, or tell whether they are. -/
def sort : Tool := fun arguments supply =>
  let table := "b|ignore-leading-blanks c |check? C d|dictionary-order |debug |files0-from:
    f|ignore-case g|general-numeric-sort h|human-numeric-sort i|ignore-nonprinting k|key: m|merge
    M|month-sort n|numeric-sort R|random-sort |random-source: |sort: r|reverse o|output: s|stable
    S|buffer-size: |batch-size: |compress-program: t|field-separator: T|temporary-directory:
    |parallel: u|unique V|version-sort z|zero-terminated"
  withOptionsOr 2 supply.name table arguments fun options =>
    let keys := sortKeys options
    match keys, sortTab options with
    | .error text, _ | _, .error text => fail 2 [] [supply.name ++ ": " ++ text]
    | .ok keys, .ok tab? =>
      let checks := ["c", "check", "C"].any options.has
      let complain (path why : String) : String :=
        if why = reason .isADirectory then
          supply.name ++ ": read failed: " ++ Mention.shellWord path ++ ": " ++ why
        else supply.name ++ ": cannot read: " ++ Mention.shellWord path ++ ": " ++ why
      let pieces := readPieces complain supply options.operands
      let mark := recordMark options
      let complaints := pieces.complaints
      let lines := bareRecords mark (pieces.ended mark).content
      let unique := options.has "u"
      let byKeys := SortKey.compareLines tab? keys
      let last (left right : List UInt8) : Ordering :=
        if unique || options.has "s" then .eq
        else
          let order := SortKey.compareBytes left right
          if options.has "r" then order.swap else order
      let order (left right : List UInt8) : Ordering := (byKeys left right).then (last left right)
      if !complaints.isEmpty then fail 2 [] (complaints.take 1)
      else if checks then
        match options.operands with
        | _ :: extra :: _ =>
          refuse supply.name (extraOperand extra ++ " not allowed with -c")
        | paths =>
          let wrong (left right : List UInt8) : Bool :=
            order left right == .gt || (unique && order left right == .eq)
          match disorder? wrong 1 lines with
          | none => succeed []
          | some (number, line) =>
            let silent := options.has "C" || options.value? "check" == some "quiet"
              || options.value? "check" == some "silent"
            fail 1 [] (if silent then [] else
              [supply.name ++ ": " ++ paths.headD "-" ++ ":" ++ Decimal.digitText number
                ++ ": disorder: " ++ Text.Octets.ofBytes line])
      else
        let sorted := lines.mergeSort fun left right => order left right != .gt
        let kept := if unique then firstOfEach (fun left right => byKeys left right == .eq)
            none sorted
          else sorted
        succeed (joinRecords mark kept)

/-! ## Rows of equal lines -/

/-- The part of a line that is compared: behind some fields and bytes, and not longer than some
length. -/
def comparedPart (fields chars : Nat) (most? : Option Nat) (folded : Bool) (line : List UInt8) :
    List UInt8 :=
  let isBlank (b : UInt8) : Bool := b == 32 || b == 9
  let rec behind : Nat → List UInt8 → List UInt8
    | 0, line => line
    | n + 1, line => behind n ((line.dropWhile isBlank).dropWhile (!isBlank ·))
  let part := (behind fields line).drop chars
  let part := match most? with
    | some most => part.take most
    | none => part
  if folded then part.map fun b => if 97 ≤ b && b ≤ 122 then b - 32 else b else part

/-- Arguments in which a number behind a sign stands for a number of fields or bytes. -/
def expandSkips (arguments : List String) : List String :=
  arguments.map fun argument =>
    match argument.toList with
    | '-' :: c :: rest =>
      if (c :: rest).all Char.isDigit then "-f" ++ String.ofList (c :: rest) else argument
    | '+' :: c :: rest =>
      if (c :: rest).all Char.isDigit then "-s" ++ String.ofList (c :: rest) else argument
    | _ => argument

/-- Groups with empty lines before, behind or between them. -/
def separateGroups (mark : UInt8) (manner : String) (groups : List (List (List UInt8))) :
    List UInt8 :=
  let bodies := groups.map (joinRecords mark)
  let between := [mark].intercalate bodies
  if bodies.isEmpty then []
  else
    match manner with
    | "prepend" => mark :: between
    | "append" => between ++ [mark]
    | "both" => mark :: between ++ [mark]
    | "separate" => between
    | _ => bodies.flatten

/-- Write one of each row of equal lines, with their number in front of it if that is asked for. -/
def uniq : Tool := fun arguments supply =>
  let table := "c|count d|repeated D |all-repeated? |group? i|ignore-case u|unique f|skip-fields:
    s|skip-chars: w|check-chars: z|zero-terminated"
  withOptions supply.name table (expandSkips arguments) fun options =>
    let number (key : String) : Option Nat :=
      (options.value? key).bind fun text => Decimal.readNatural (2 ^ 64) text.toList
    let wrong := [("f", "fields to skip"), ("s", "bytes to skip"), ("w", "bytes to compare")].find?
      fun (key, _) => (options.value? key).isSome && (number key).isNone
    match wrong, options.operands with
    | some (key, what), _ =>
      fail 1 [] [supply.name ++ ": " ++ (options.value? key).getD "" ++ ": invalid number of "
        ++ what]
    | none, _ :: _ :: extra :: _ => refuse supply.name (extraOperand extra)
    | none, paths =>
      let pieces := readPieces (complainOf supply.name) supply (paths.take 1)
      let (bytes, complaints) := (pieces.content, pieces.complaints)
      let part := comparedPart ((number "f").getD 0) ((number "s").getD 0) (number "w")
        (options.has "i")
      let mark := recordMark options
      let groups := (bareRecords mark bytes).splitBy fun left right => part left == part right
      if options.has "group" && ["c", "d", "D", "u"].any options.has then
        refuse supply.name "--group is mutually exclusive with -c/-d/-D/-u"
      else if options.has "c" && (options.has "D" || options.has "all-repeated") then
        refuse supply.name "printing all duplicated lines and repeat counts is meaningless"
      else if options.has "group" then
        let manner := (options.value? "group").getD "separate"
        conclude 1 (separateGroups mark manner groups) complaints
      else
        let kept := groups.filter fun group =>
          (!(options.has "d" || options.has "D" || options.has "all-repeated")
            || 1 < group.length)
          && (!options.has "u" || group.length == 1)
        if options.has "D" || options.has "all-repeated" then
          let manner := (options.value? "all-repeated").getD "none"
          conclude 1 (separateGroups mark manner kept) complaints
        else
          let rows := kept.map fun group =>
            (if options.has "c" then Text.Octets.toBytes (column 7 group.length ++ " ") else [])
              ++ group.headD []
          conclude 1 (joinRecords mark rows) complaints

/-! ## Lines of two files -/

/-- The lines of two files that are in order, each with the files that it stands in. -/
def mergeLines : (fuel : Nat) → List (List UInt8) → List (List UInt8) →
    List (Bool × Bool × List UInt8)
  | 0, _, _ => []
  | fuel + 1, left :: lefts, right :: rights =>
    match SortKey.compareBytes left right with
    | .lt => (true, false, left) :: mergeLines fuel lefts (right :: rights)
    | .gt => (false, true, right) :: mergeLines fuel (left :: lefts) rights
    | .eq => (true, true, left) :: mergeLines fuel lefts rights
  | _ + 1, lefts, rights =>
    lefts.map (true, false, ·) ++ rights.map (false, true, ·)

/-- Write the lines of two files in columns: those of the first one only, those of the second one
only, and those of both. -/
def comm : Tool := fun arguments supply =>
  let table := "1 2 3 |check-order |nocheck-order |output-delimiter: |total z|zero-terminated"
  withOptions supply.name table arguments fun options =>
    match options.operands with
    | [] => refuse supply.name "missing operand"
    | [path] => refuse supply.name ("missing operand after " ++ Mention.marked path)
    | [first, second] =>
      match supplied supply first, supplied supply second with
      | .error cause, _ => fail 1 [] [complainOf supply.name first (reason cause)]
      | _, .error cause => fail 1 [] [complainOf supply.name second (reason cause)]
      | .ok left, .ok right =>
        let mark := recordMark options
        let (lefts, rights) := (bareRecords mark left, bareRecords mark right)
        let merged := mergeLines (lefts.length + rights.length + 1) lefts rights
        let joint := ((options.value? "output-delimiter").map Text.Octets.toBytes).getD [9]
        let shows (key : String) : Bool := !options.has key
        let tabs (keys : List String) : List UInt8 :=
          keys.flatMap fun key => if shows key then joint else []
        let rows := merged.filterMap fun (inFirst, inSecond, line) =>
          match inFirst, inSecond with
          | true, false => if shows "1" then some line else none
          | false, _ => if shows "2" then some (tabs ["1"] ++ line) else none
          | true, true => if shows "3" then some (tabs ["1", "2"] ++ line) else none
        let count (wanted : Bool × Bool) : String :=
          Decimal.digitText (merged.countP fun (a, b, _) => (a, b) == wanted)
        let total := if options.has "total" then
            joinRecords mark [joint.intercalate ([count (true, false), count (false, true),
              count (true, true), "total"].map Text.Octets.toBytes)]
          else []
        let wrong (lines : List (List UInt8)) : Bool :=
          (disorder? (fun a b => SortKey.compareBytes a b == .gt) 1 lines).isSome
        let unpaired := merged.any fun (a, b, _) => a != b
        let checks := !options.has "nocheck-order" && (unpaired || options.has "check-order")
        let disorder (lines : List (List UInt8)) (number : String) : List String :=
          if wrong lines then [supply.name ++ ": file " ++ number ++ " is not in sorted order"]
          else []
        let complaints := disorder lefts "1" ++ disorder rights "2"
        let complaints := if checks && !complaints.isEmpty
          then complaints ++ [supply.name ++ ": input is not in sorted order"] else []
        conclude 1 (joinRecords mark rows ++ total) complaints
    | _ :: _ :: extra :: _ => refuse supply.name (extraOperand extra)

/-- The fields of a line: between blanks, or between the bytes that are given. -/
def lineFields (tab? : Option UInt8) (line : List UInt8) : List (List UInt8) :=
  match tab? with
  | some tab => line.splitOn tab
  | none => (line.splitOnP fun b => b == 32 || b == 9).filter (!·.isEmpty)

/-- Lines of two files that are in order by a field, brought together: groups of lines of each with
the same field. -/
def pairGroups : (fuel : Nat) → List (List UInt8 × List (List (List UInt8))) →
    List (List UInt8 × List (List (List UInt8))) →
    List (List UInt8 × List (List (List UInt8)) × List (List (List UInt8)))
  | 0, _, _ => []
  | fuel + 1, (left, lefts) :: others, (right, rights) :: more =>
    match SortKey.compareBytes left right with
    | .lt => (left, lefts, []) :: pairGroups fuel others ((right, rights) :: more)
    | .gt => (right, [], rights) :: pairGroups fuel ((left, lefts) :: others) more
    | .eq => (left, lefts, rights) :: pairGroups fuel others more
  | _ + 1, lefts, rights =>
    lefts.map (fun (key, lines) => (key, lines, []))
      ++ rights.map (fun (key, lines) => (key, [], lines))

/-- Write the lines of two files that have a field in common, joined. -/
def join : Tool := fun arguments supply =>
  let table := "1: 2: a: e: i|ignore-case j: o: t: v: z|zero-terminated |check-order
    |nocheck-order |header"
  withOptions supply.name table arguments fun options =>
    match options.operands with
    | [] => refuse supply.name "missing operand"
    | [path] => refuse supply.name ("missing operand after " ++ Mention.marked path)
    | [first, second] =>
      match supplied supply first, supplied supply second with
      | .error cause, _ => fail 1 [] [complainOf supply.name first (reason cause)]
      | _, .error cause => fail 1 [] [complainOf supply.name second (reason cause)]
      | .ok left, .ok right =>
        let mark := recordMark options
        let tab? := (options.value? "t").bind fun text => (Text.Octets.toBytes text).head?
        let place (key : String) : Nat :=
          (((options.value? key).or (options.value? "j")).bind fun text =>
            Decimal.readNatural (2 ^ 32) text.toList).getD 1 - 1
        let fold (field : List UInt8) : List UInt8 := if options.has "i" then
            field.map fun b => if 65 ≤ b && b ≤ 90 then b + 32 else b
          else field
        let rows (bytes : List UInt8) : List (List (List UInt8)) :=
          (bareRecords mark bytes).map (lineFields tab?)
        let grouped (place : Nat) (rows : List (List (List UInt8))) :
            List (List UInt8 × List (List (List UInt8))) :=
          (rows.splitBy fun a b => fold (a.getD place []) == fold (b.getD place [])).map
            fun group => (fold ((group.headD []).getD place []), group)
        let (lefts, rights) := (rows left, rows right)
        let heads := if options.has "header" then (lefts.head?, rights.head?) else (none, none)
        let (lefts, rights) := if options.has "header" then (lefts.tail, rights.tail)
          else (lefts, rights)
        let (p, q) := (place "1", place "2")
        let groups := pairGroups (lefts.length + rights.length + 1) (grouped p lefts)
          (grouped q rights)
        let empty := ((options.value? "e").map Text.Octets.toBytes).getD []
        let filled (field : List UInt8) : List UInt8 := if field.isEmpty then empty else field
        let format? := (options.value? "o").map fun text =>
          (text.toList.splitOnP fun c => c == ',' || c == ' ').map String.ofList
        let row (a b : Option (List (List UInt8))) : List UInt8 :=
          let field (side : Option (List (List UInt8))) (n : Nat) : List UInt8 :=
            filled ((side.getD []).getD (n - 1) [])
          let key := if a.isSome then field a (p + 1) else field b (q + 1)
          let cells := match format? with
            | some entries => entries.map fun entry =>
              match entry.toList with
              | '1' :: '.' :: n => field a ((Decimal.readNatural (2 ^ 32) n).getD 1)
              | '2' :: '.' :: n => field b ((Decimal.readNatural (2 ^ 32) n).getD 1)
              | _ => key
            | none => key :: ((a.getD []).eraseIdx p ++ (b.getD []).eraseIdx q).map filled
          [tab?.getD 32].intercalate cells
        let alone (n : String) : Bool := (options.values "a" ++ options.values "v").contains n
        let paired := !options.has "v"
        let joined := groups.flatMap fun (_, lefts, rights) =>
          if rights.isEmpty then if alone "1" then lefts.map (fun a => row (some a) none) else []
          else if lefts.isEmpty then
            if alone "2" then rights.map (fun b => row none (some b)) else []
          else if paired then lefts.flatMap fun a => rights.map fun b => row (some a) (some b)
          else []
        let header := match heads with
          | (none, none) => []
          | (a, b) => [row (some (a.getD [])) (some (b.getD []))]
        succeed (joinRecords mark (header ++ joined))
    | _ :: _ :: extra :: _ => refuse supply.name (extraOperand extra)

end Runbook.Program.Tool
