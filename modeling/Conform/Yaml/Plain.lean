import Conform.Yaml.Cursor

/-
  This file reads YAML scalars without quotation marks. They
  end where a mark of the structure begins, and they may go
  over several lines that are indented far enough.

  Key definitions include:
    * `Yaml.plainWord?`
    * `Yaml.plainWords?`
    * `Yaml.scanPlain?`
-/

namespace Conform

namespace Yaml

/- The marks that end a plain scalar inside brackets. -/
def flowMarks : List Char :=
  [',', '[', ']', '\x7b', '\x7d']

/-
  A word of a plain scalar, as far as a blank or a mark. The
  characters come last first. Inside brackets a colon may
  not stand right before a mark.
-/
def plainWord?
    (inFlow : Bool)
    (done : List Char) : List Char → Option (List Char)
  | [] => some done
  | x :: rest =>
      if isWhite x || isBreak x then some done
      else if inFlow && x == ':' &&
          startsWithOne ('?' :: flowMarks) rest then none
      else if x == ':' && endsWord rest then some done
      else if inFlow && flowMarks.contains x then some done
      else plainWord? inFlow (x :: done) rest

/-
  Reads words and the gaps between them. A gap belongs to
  the scalar only if another word follows. The flag says
  that the scalar is followed by the end of a line.
-/
def plainWords?
    (inFlow : Bool)
    (margin : Nat) :
    Nat → List Char → Gap → Cursor →
      Option (List Char × Bool × Cursor)
  | 0, done, gap, c => some (done, gap.broken, c)
  | fuel + 1, done, gap, c =>
      if c.atIndicator || startsWithOne ['#'] c.rest then
        some (done, gap.broken, c)
      else
        match plainWord? inFlow [] c.rest with
        | none => none
        | some word =>
            let c := c.advance word.length
            let (done, gap) :=
              if word.isEmpty then (done, gap)
              else
                (word ++ (gap.text.reverse ++ done),
                  Gap.empty false)
            match c.rest with
            | [] => some (done, gap.broken, c)
            | x :: _ =>
                if isWhite x || isBreak x then
                  match Gap.scan? margin fuel gap c with
                  | none => none
                  | some (gap, c) =>
                      if !inFlow && decide (c.column < margin) then
                        some (done, gap.broken, c)
                      else
                        plainWords? inFlow margin fuel done gap c
                else
                  some (done, gap.broken, c)

/-
  Reads a plain scalar whose further lines are indented to a
  margin. The flag says that the end of a line follows.
-/
def scanPlain?
    (fuel : Nat)
    (inFlow : Bool)
    (margin : Nat)
    (c : Cursor) : Option (String × Bool × Cursor) :=
  (plainWords? inFlow margin fuel [] (Gap.empty false) c).map
    fun r => (String.ofList r.1.reverse, r.2)

end Yaml

end Conform
