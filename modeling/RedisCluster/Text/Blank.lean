/-! Blank characters, trimming, and splitting a text into pieces and words. -/

namespace RedisCluster

/-- A character is blank when Unicode gives it the property `White_Space`. -/
def isBlank (c : Char) : Bool :=
  let n := c.toNat
  (0x09 ≤ n && n ≤ 0x0D) || n == 0x20 || n == 0x85 || n == 0xA0 || n == 0x1680 ||
    (0x2000 ≤ n && n ≤ 0x200A) || n == 0x2028 || n == 0x2029 || n == 0x202F || n == 0x205F ||
    n == 0x3000

/-- Drops the characters that satisfy `drop` from the end of a text. -/
def dropEndWhile (drop : Char → Bool) (text : List Char) : List Char :=
  (text.reverse.dropWhile drop).reverse

/-- Drops the blanks at both ends of a text. -/
def trimBlanks (text : List Char) : List Char :=
  dropEndWhile isBlank (text.dropWhile isBlank)

/-- Cuts a text at every separator; neighbouring separators enclose an empty piece. -/
def pieces (separates : Char → Bool) : List Char → List (List Char)
  | [] => [[]]
  | c :: rest =>
    if separates c then [] :: pieces separates rest
    else
      match pieces separates rest with
      | [] => [[c]]
      | piece :: others => (c :: piece) :: others

/-- Lists the maximal runs of characters that are not blank. -/
def words (text : List Char) : List (List Char) :=
  (pieces isBlank text).filter fun piece => !piece.isEmpty

end RedisCluster
