import RichText.Text.Digits

/-!
# Colours
-/
namespace RichText

structure Color where
  red : UInt8
  green : UInt8
  blue : UInt8
  alpha : UInt8 := 255
deriving DecidableEq, Repr

namespace Color

def digits (c : Color) : List Char :=
  Text.hexByte c.red ++ Text.hexByte c.green ++ Text.hexByte c.blue ++
    (if c.alpha = 255 then [] else Text.hexByte c.alpha)

def text (c : Color) : String := String.ofList ('#' :: c.digits)

end Color

end RichText
