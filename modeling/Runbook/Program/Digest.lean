import Runbook.Program.Dump

/-!
# Digests

Programs that write a short figure for the content of files.
-/

namespace Runbook.Program.Digest

/-- A message filled up to whole blocks: a bit, zeros, and the length in bits at the end. -/
def padded (block lengthBytes : Nat) (lowFirst : Bool) (message : List UInt8) : List UInt8 :=
  let zeros := (2 * block - (message.length + 1 + lengthBytes) % block) % block
  let bits := 8 * message.length
  let length := (List.range lengthBytes).map fun index => (bits / 256 ^ index % 256).toUInt8
  message ++ 0x80 :: List.replicate zeros 0 ++ if lowFirst then length else length.reverse

/-- The words of a block, each of some bytes. -/
def words (size : Nat) (lowFirst : Bool) (block : List UInt8) : Array Nat :=
  ((Tool.parts size (block.length + 1) block).map fun bytes =>
    (if lowFirst then bytes.reverse else bytes).foldl (fun (n : Nat) (byte : UInt8) =>
      n * 256 + byte.toNat) 0).toArray

/-- The bytes of words in base 16. -/
def hexText (size : Nat) (lowFirst : Bool) (state : List Nat) : String :=
  String.join (state.map fun word =>
    let bytes := (List.range size).map fun index =>
      Tool.figures 16 2 (word / 256 ^ (if lowFirst then index else size - 1 - index) % 256)
    String.join bytes)

/-! ## Digests of 128 bits -/

/-- How far the words are turned in each round of four. -/
def md5Turns : Array UInt32 := #[7, 12, 17, 22, 5, 9, 14, 20, 4, 11, 16, 23, 6, 10, 15, 21]

/-- The constants of the rounds. -/
def md5Constants : Array UInt32 :=
  #[0xd76aa478, 0xe8c7b756, 0x242070db, 0xc1bdceee, 0xf57c0faf, 0x4787c62a, 0xa8304613, 0xfd469501,
    0x698098d8, 0x8b44f7af, 0xffff5bb1, 0x895cd7be, 0x6b901122, 0xfd987193, 0xa679438e, 0x49b40821,
    0xf61e2562, 0xc040b340, 0x265e5a51, 0xe9b6c7aa, 0xd62f105d, 0x02441453, 0xd8a1e681, 0xe7d3fbc8,
    0x21e1cde6, 0xc33707d6, 0xf4d50d87, 0x455a14ed, 0xa9e3e905, 0xfcefa3f8, 0x676f02d9, 0x8d2a4c8a,
    0xfffa3942, 0x8771f681, 0x6d9d6122, 0xfde5380c, 0xa4beea44, 0x4bdecfa9, 0xf6bb4b60, 0xbebfbc70,
    0x289b7ec6, 0xeaa127fa, 0xd4ef3085, 0x04881d05, 0xd9d4d039, 0xe6db99e5, 0x1fa27cf8, 0xc4ac5665,
    0xf4292244, 0x432aff97, 0xab9423a7, 0xfc93a039, 0x655b59c3, 0x8f0ccc92, 0xffeff47d, 0x85845dd1,
    0x6fa87e4f, 0xfe2ce6e0, 0xa3014314, 0x4e0811a1, 0xf7537e82, 0xbd3af235, 0x2ad7d2bb, 0xeb86d391]

/-- Turn a word to the left. -/
def turnLeft (word count : UInt32) : UInt32 := word <<< count ||| word >>> (32 - count)

/-- Turn a word to the right. -/
def turnRight (word count : UInt32) : UInt32 := word >>> count ||| word <<< (32 - count)

/-- One round on the state. -/
def md5Round (block : Array UInt32) (state : UInt32 × UInt32 × UInt32 × UInt32) (index : Nat) :
    UInt32 × UInt32 × UInt32 × UInt32 :=
  let (a, b, c, d) := state
  let (mixed, place) :=
    if index < 16 then ((b &&& c) ||| (~~~b &&& d), index)
    else if index < 32 then ((d &&& b) ||| (~~~d &&& c), (5 * index + 1) % 16)
    else if index < 48 then (b ^^^ c ^^^ d, (3 * index + 5) % 16)
    else (c ^^^ (b ||| ~~~d), 7 * index % 16)
  let sum := a + mixed + md5Constants.getD index 0 + block.getD place 0
  (d, b + turnLeft sum (md5Turns.getD (index / 16 * 4 + index % 4) 0), b, c)

/-- The digest of 128 bits. -/
def md5 (message : List UInt8) : String :=
  let bytes := padded 64 8 true message
  let state := (Tool.parts 64 (bytes.length + 1) bytes).foldl (fun state block =>
    let block := (words 4 true block).map Nat.toUInt32
    let (a, b, c, d) := (List.range 64).foldl (md5Round block) state
    (state.1 + a, state.2.1 + b, state.2.2.1 + c, state.2.2.2 + d))
    ((0x67452301, 0xefcdab89, 0x98badcfe, 0x10325476) : UInt32 × UInt32 × UInt32 × UInt32)
  hexText 4 true [state.1.toNat, state.2.1.toNat, state.2.2.1.toNat, state.2.2.2.toNat]

/-! ## Digests of 160 bits -/

/-- The words of a block, and those that are made from them, up to a number of words. -/
def schedule {α : Type} (next : Array α → α) : (count : Nat) → Array α → Array α
  | 0, made => made
  | count + 1, made => schedule next count (made.push (next made))

/-- The state of a digest of 160 bits. -/
structure State160 where
  a : UInt32
  b : UInt32
  c : UInt32
  d : UInt32
  e : UInt32

/-- One round on the state. -/
def round160 (made : Array UInt32) (state : State160) (index : Nat) : State160 :=
  let ⟨a, b, c, d, e⟩ := state
  let (mixed, constant) : UInt32 × UInt32 :=
    if index < 20 then ((b &&& c) ||| (~~~b &&& d), 0x5a827999)
    else if index < 40 then (b ^^^ c ^^^ d, 0x6ed9eba1)
    else if index < 60 then ((b &&& c) ||| (b &&& d) ||| (c &&& d), 0x8f1bbcdc)
    else (b ^^^ c ^^^ d, 0xca62c1d6)
  ⟨turnLeft a 5 + mixed + e + constant + made.getD index 0, a, turnLeft b 30, c, d⟩

/-- The digest of 160 bits. -/
def sha1 (message : List UInt8) : String :=
  let bytes := padded 64 8 false message
  let state := (Tool.parts 64 (bytes.length + 1) bytes).foldl (fun (state : State160) block =>
    let made := schedule (fun made =>
      let at' (back : Nat) : UInt32 := made.getD (made.size - back) 0
      turnLeft (at' 3 ^^^ at' 8 ^^^ at' 14 ^^^ at' 16) 1) 64
      ((words 4 false block).map Nat.toUInt32)
    let done := (List.range 80).foldl (round160 made) state
    ⟨state.a + done.a, state.b + done.b, state.c + done.c, state.d + done.d, state.e + done.e⟩)
    ⟨0x67452301, 0xefcdab89, 0x98badcfe, 0x10325476, 0xc3d2e1f0⟩
  hexText 4 false [state.a.toNat, state.b.toNat, state.c.toNat, state.d.toNat, state.e.toNat]

/-! ## Digests of words that are turned

These digests come in two sizes, which differ in the width of their words, the number of rounds, and
how far words are turned. -/

/-- The primes up to a bound. -/
def primes (bound : Nat) : List Nat :=
  (List.range bound).filter fun n => 2 ≤ n && (List.range n).all fun d => d < 2 || n % d != 0

/-- The whole part of a root. -/
def rootOf (power n : Nat) : (bits : Nat) → (found : Nat) → Nat
  | 0, found => found
  | bits + 1, found =>
    rootOf power n bits (if (found + 2 ^ bits) ^ power ≤ n then found + 2 ^ bits else found)

/-- The bits behind the point of a root of a number. -/
def rootBits (power width n : Nat) : Nat :=
  rootOf power (n * 2 ^ (power * width)) (width + 8) 0 % 2 ^ width

/-- The size of a digest: its words, its rounds, and how far its words are turned. -/
structure Size where
  width : Nat
  rounds : Nat
  /-- How far words are turned when the state is mixed. -/
  large0 : List Nat
  large1 : List Nat
  /-- How far words are turned, and shifted at last, when words are made. -/
  small0 : List Nat
  small1 : List Nat

/-- The size with words of 32 bits. -/
def Size.short : Size := ⟨32, 64, [2, 13, 22], [6, 11, 25], [7, 18, 3], [17, 19, 10]⟩

/-- The size with words of 64 bits. -/
def Size.long : Size := ⟨64, 80, [28, 34, 39], [14, 18, 41], [1, 8, 7], [19, 61, 6]⟩

namespace Size

/-- A word turned to the right. -/
def turned (size : Size) (word count : Nat) : Nat :=
  (word >>> count) ||| (word <<< (size.width - count)) % 2 ^ size.width

/-- The sum of words. -/
def sum (size : Size) (words : List Nat) : Nat := words.sum % 2 ^ size.width

/-- A word mixed with itself, turned in several ways. -/
def mixed (size : Size) (turns : List Nat) (shifts : Bool) (word : Nat) : Nat :=
  match turns with
  | [x, y, z] =>
    size.turned word x ^^^ size.turned word y
      ^^^ (if shifts then word >>> z else size.turned word z)
  | _ => word

/-- One round on the state. -/
def round (size : Size) (made constants : Array Nat) (state : Array Nat) (index : Nat) :
    Array Nat :=
  let at' (n : Nat) : Nat := state.getD n 0
  let (a, b, c, e, f, g) := (at' 0, at' 1, at' 2, at' 4, at' 5, at' 6)
  let full := 2 ^ size.width - 1
  let choice := (e &&& f) ^^^ ((full ^^^ e) &&& g)
  let most := (a &&& b) ^^^ (a &&& c) ^^^ (b &&& c)
  let first := size.sum [at' 7, size.mixed size.large1 false e, choice, constants.getD index 0,
    made.getD index 0]
  let second := size.sum [size.mixed size.large0 false a, most]
  #[size.sum [first, second], a, b, c, size.sum [at' 3, first], e, f, g]

/-- The digest of a message, with a state to begin with and a number of words in the end. -/
def digest (size : Size) (begun : List Nat) (count : Nat) (message : List UInt8) : String :=
  let bytes := size.width / 8
  let block := 16 * bytes
  let constants := ((primes 420).take size.rounds).map (rootBits 3 size.width) |>.toArray
  let whole := padded block (2 * bytes) false message
  let state := (Tool.parts block (whole.length + 1) whole).foldl (fun (state : Array Nat) part =>
    let made := schedule (fun made =>
      let at' (back : Nat) : Nat := made.getD (made.size - back) 0
      size.sum [size.mixed size.small1 true (at' 2), at' 7, size.mixed size.small0 true (at' 15),
        at' 16]) (size.rounds - 16) (words bytes false part)
    let done := (List.range size.rounds).foldl (size.round made constants) state
    state.mapIdx fun index word => size.sum [word, done.getD index 0]) begun.toArray
  hexText bytes false (state.toList.take count)

end Size

/-- The digest of 256 bits. -/
def sha256 (message : List UInt8) : String :=
  Size.short.digest ((primes 20).map (rootBits 2 32)) 8 message

/-- The digest of 512 bits. -/
def sha512 (message : List UInt8) : String :=
  Size.long.digest ((primes 20).map (rootBits 2 64)) 8 message

/-- The digest of 384 bits. -/
def sha384 (message : List UInt8) : String :=
  Size.long.digest (((primes 60).drop 8).take 8 |>.map (rootBits 2 64)) 6 message

/-- The digest of 224 bits. -/
def sha224 (message : List UInt8) : String :=
  Size.short.digest (((primes 60).drop 8).take 8 |>.map fun n => rootBits 2 64 n % 2 ^ 32) 7 message

/-! ## Check sums -/

/-- A word after a byte has been divided into it. -/
def crcStep (crc : UInt32) (byte : UInt8) : UInt32 :=
  (List.range 8).foldl (fun crc _ =>
    if crc &&& 0x80000000 != 0 then crc <<< 1 ^^^ 0x04c11db7 else crc <<< 1)
    (crc ^^^ byte.toUInt32 <<< 24)

/-- The remainder of a content and its length. -/
def crc (content : List UInt8) : UInt32 :=
  let rec lengthBytes (fuel n : Nat) : List UInt8 :=
    match fuel with
    | 0 => []
    | fuel + 1 => if n = 0 then [] else (n % 256).toUInt8 :: lengthBytes fuel (n / 256)
  ~~~((content ++ lengthBytes 9 content.length).foldl crcStep 0)

/-- A sum of 16 bits that is turned before each byte. -/
def turnedSum (content : List UInt8) : Nat :=
  content.foldl (fun (sum : Nat) (byte : UInt8) =>
    (sum / 2 + sum % 2 * 32768 + byte.toNat) % 65536) 0

/-- A sum of all bytes, folded into 16 bits. -/
def foldedSum (content : List UInt8) : Nat :=
  let sum := (content.map UInt8.toNat).sum
  let folded := sum % 65536 + sum % 2 ^ 32 / 65536
  folded % 65536 + folded / 65536

end Digest

namespace Tool

/-- Check the lines of digests in a file: each is a digest and a name. -/
def checkDigests (name : String) (digest : List UInt8 → String) (supply : Supply)
    (quiet silent : Bool) (path : String) : Writings :=
  let verdict (text : String) : Channel × List UInt8 :=
    shown (if silent then [] else Text.Octets.toBytes (text ++ "\n"))
  match supplied supply path with
  | .error cause => [told (complainOf name path (reason cause))]
  | .ok bytes =>
    let results := (bareLines bytes).filterMap fun line =>
      let chars := Text.Octets.chars line
      let (sum, rest) := chars.span (· != ' ')
      let file := String.ofList (rest.drop 2)
      if file = "" then none
      else
        match supplied supply file with
        | .ok content =>
          let good := digest content == String.ofList (sum.map Char.toLower)
          some (if good then if quiet then [] else [verdict (file ++ ": OK")]
            else [verdict (file ++ ": FAILED")], if good then none else some true)
        | .error cause =>
          some ([told (complainOf name file (reason cause)),
            verdict (file ++ ": FAILED open or read")], some false)
    let wrong := results.countP fun (_, failed?) => failed? == some true
    let unread := results.countP fun (_, failed?) => failed? == some false
    let warning (n : Nat) (one many : String) : Writings :=
      if n = 0 then []
      else
        [told (name ++ ": WARNING: " ++ Decimal.digitText n ++ " " ++ if n = 1 then one else many)]
    results.flatMap (·.1)
      ++ warning unread "listed file could not be read" "listed files could not be read"
      ++ warning wrong "computed checksum did NOT match" "computed checksums did NOT match"
      ++ if results.isEmpty then
          [told (name ++ ": " ++ path ++ ": no properly formatted checksum lines found")]
        else []

/-- Write digests of files. -/
def digest (title : String) (compute : List UInt8 → String) : Tool :=
  fun arguments supply =>
    let table := "b|binary c|check |ignore-missing |quiet |status |strict t|text |tag w|warn z|zero"
    let name := supply.name
    withOptions name table arguments fun options =>
      let paths := if options.operands.isEmpty then ["-"] else options.operands
      if options.has "c" then
        concludeWith 1 (paths.flatMap (checkDigests name compute supply (options.has "quiet")
          (options.has "status")))
      else
        concludeWith 1 ((suppliedAll supply paths).map fun (path, content) =>
          match content with
          | .error cause => told (complainOf name path (reason cause))
          | .ok bytes =>
            let row := if options.has "tag" then title ++ " (" ++ path ++ ") = " ++ compute bytes
              else compute bytes ++ (if options.has "b" then " *" else "  ") ++ path
            shown (Text.Octets.toBytes row ++ [if options.has "z" then 0 else 10]))

/-- Write the check sums of files, and their lengths. -/
def cksum : Tool := fun arguments supply =>
  withOptions supply.name "a|algorithm: |untagged" arguments fun options =>
    concludeWith 1 ((suppliedAll supply options.operands).map fun (path, content) =>
      match content with
      | .error cause => told (complainOf supply.name path (reason cause))
      | .ok bytes =>
        let title := if options.operands.isEmpty then "" else " " ++ path
        let row := Decimal.digitText (Digest.crc bytes).toNat ++ " "
          ++ Decimal.digitText bytes.length ++ title ++ "\n"
        shown (Text.Octets.toBytes row))

/-- Write sums over files, and their lengths in blocks. -/
def sum : Tool := fun arguments supply =>
  withOptions supply.name "r s|sysv" arguments fun options =>
    let folded := options.last? ["r", "s"] == some "s"
    concludeWith 1 ((suppliedAll supply options.operands).map fun (path, content) =>
      match content with
      | .error cause => told (complainOf supply.name path (reason cause))
      | .ok bytes =>
        let blocks (size : Nat) : Nat := (bytes.length + size - 1) / size
        let title := if options.operands.isEmpty then "" else " " ++ path
        let row := if folded then
            Decimal.digitText (Digest.foldedSum bytes) ++ " " ++ Decimal.digitText (blocks 512)
          else
            fillFront '0' 5 (Decimal.digitText (Digest.turnedSum bytes)) ++ " "
              ++ column 5 (blocks 1024)
        shown (Text.Octets.toBytes (row ++ title ++ "\n")))

/-- The programs that write digests, by their names. -/
def digestTools : List (String × Tool) :=
  ([("md5sum", "MD5", Digest.md5), ("sha1sum", "SHA1", Digest.sha1),
    ("sha224sum", "SHA224", Digest.sha224), ("sha256sum", "SHA256", Digest.sha256),
    ("sha384sum", "SHA384", Digest.sha384), ("sha512sum", "SHA512", Digest.sha512)] :
    List (String × String × (List UInt8 → String))).map fun (name, title, compute) =>
      (name, digest title compute)

end Tool

end Runbook.Program
