import Midn.Crypto.Primitives

/-!
# The standard primitives

AES-128, AES-CMAC and HMAC-SHA-256, as the external crates compute them. Results hold for arbitrary
primitives; these are the ones the runs of the development use.
-/

namespace Midn

namespace Aes

/-- The S-box, its first entry in the most significant octet. -/
def sboxTable : Nat :=
  0x637c777bf26b6fc53001672bfed7ab76ca82c97dfa5947f0add4a2af9ca472c0b7fd9326363ff7cc34a5e5f171d8311504c723c31896059a071280e2eb27b27509832c1a1b6e5aa0523bd6b329e32f8453d100ed20fcb15b6acbbe394a4c58cfd0efaafb434d338545f9027f503c9fa851a3408f929d38f5bcb6da2110fff3d2cd0c13ec5f974417c4a77e3d645d197360814fdc222a908846eeb814de5e0bdbe0323a0a4906245cc2d3ac629195e479e7c8376d8dd54ea96c56f4ea657aae08ba78252e1ca6b4c6e8dd741f4bbd8b8a703eb5664803f60e613557b986c11d9ee1f8981169d98e949b1e87e9ce5528df8ca1890dbfe6426841992d0fb054bb16

def subByte (x : UInt8) : UInt8 := UInt8.ofNat (sboxTable >>> (8 * (255 - x.toNat)))

/-- Multiplication by two in the field of AES. -/
def xtime (x : UInt8) : UInt8 := (x <<< 1) ^^^ (if x &&& 0x80 = 0 then 0 else 0x1B)

def xorBytes (a b : List UInt8) : List UInt8 := List.zipWith (· ^^^ ·) a b

/-- Rows of the state are every fourth octet; row `r` moves `r` columns. -/
def shiftRows (s : List UInt8) : List UInt8 :=
  (List.range 16).map fun i => s.getD (5 * i % 16) 0

def mixColumn (a b c d : UInt8) : List UInt8 :=
  let t := a ^^^ b ^^^ c ^^^ d
  [a ^^^ t ^^^ xtime (a ^^^ b), b ^^^ t ^^^ xtime (b ^^^ c), c ^^^ t ^^^ xtime (c ^^^ d),
    d ^^^ t ^^^ xtime (d ^^^ a)]

def mixColumns : List UInt8 → List UInt8
  | a :: b :: c :: d :: rest => mixColumn a b c d ++ mixColumns rest
  | _ => []

/-- The next round key. -/
def nextKey (rcon : UInt8) (key : List UInt8) : List UInt8 :=
  let last := (key.drop 12).rotateLeft 1 |>.map subByte
  let w0 := xorBytes (key.take 4) (xorBytes last [rcon, 0, 0, 0])
  let w1 := xorBytes ((key.drop 4).take 4) w0
  let w2 := xorBytes ((key.drop 8).take 4) w1
  let w3 := xorBytes (key.drop 12) w2
  w0 ++ w1 ++ w2 ++ w3

/-- The rounds after the first key addition, the last without mixing. -/
def rounds : List UInt8 → List UInt8 → List UInt8 → List UInt8
  | [], _, s => s
  | [rcon], key, s => xorBytes (shiftRows (s.map subByte)) (nextKey rcon key)
  | rcon :: rcons, key, s =>
      rounds rcons (nextKey rcon key)
        (xorBytes (mixColumns (shiftRows (s.map subByte))) (nextKey rcon key))

def roundConstants : List UInt8 := [0x01, 0x02, 0x04, 0x08, 0x10, 0x20, 0x40, 0x80, 0x1B, 0x36]

/-- Encryption of one block. -/
def encrypt (key block : Octets 16) : Octets 16 :=
  ⟨Octets.beBytes 16 (Octets.beValue
      (rounds roundConstants key.toList (xorBytes block.toList key.toList))),
    Octets.length_beBytes 16 _⟩

end Aes

namespace Cmac

/-- Doubling in the field of 128-bit blocks. -/
def double (v : Nat) : Nat := (2 * v % 2 ^ 128) ^^^ (if v < 2 ^ 127 then 0 else 0x87)

def block (v : Nat) : Octets 16 := ⟨Octets.beBytes 16 v, Octets.length_beBytes 16 v⟩

/-- The last block, completed or padded, masked with its subkey. -/
def lastBlock (key : Octets 16) (tail : List UInt8) : Octets 16 :=
  let subkey := double (Octets.beValue (Aes.encrypt key (Octets.zeros 16)).toList)
  if tail.length = 16 then block (Octets.beValue tail ^^^ subkey)
  else
    block (Octets.beValue (tail ++ 0x80 :: List.replicate (15 - tail.length) 0) ^^^ double subkey)

/-- The MAC of a message. -/
def mac (key : Octets 16) (message : List UInt8) : Octets 16 :=
  let whole := (message.length - 1) / 16
  let chained := (List.range whole).foldl (fun acc i =>
    Aes.encrypt key (Octets.xor acc (block (Octets.beValue ((message.drop (16 * i)).take 16)))))
    (Octets.zeros 16)
  Aes.encrypt key (Octets.xor chained (lastBlock key (message.drop (16 * whole))))

end Cmac

namespace Sha256

def rotr (x n : UInt32) : UInt32 := (x >>> n) ||| (x <<< (32 - n))

/-- The working variables. -/
structure Registers where
  (a b c d e f g h : UInt32)

def Registers.initial : Registers :=
  ⟨0x6a09e667, 0xbb67ae85, 0x3c6ef372, 0xa54ff53a, 0x510e527f, 0x9b05688c, 0x1f83d9ab, 0x5be0cd19⟩

def Registers.add (r s : Registers) : Registers :=
  ⟨r.a + s.a, r.b + s.b, r.c + s.c, r.d + s.d, r.e + s.e, r.f + s.f, r.g + s.g, r.h + s.h⟩

def Registers.toBytes (r : Registers) : List UInt8 :=
  [r.a, r.b, r.c, r.d, r.e, r.f, r.g, r.h].flatMap fun w => w.toBeBytes.toList

def roundConstants : List UInt32 :=
  [0x428a2f98, 0x71374491, 0xb5c0fbcf, 0xe9b5dba5, 0x3956c25b, 0x59f111f1, 0x923f82a4, 0xab1c5ed5,
    0xd807aa98, 0x12835b01, 0x243185be, 0x550c7dc3, 0x72be5d74, 0x80deb1fe, 0x9bdc06a7, 0xc19bf174,
    0xe49b69c1, 0xefbe4786, 0x0fc19dc6, 0x240ca1cc, 0x2de92c6f, 0x4a7484aa, 0x5cb0a9dc, 0x76f988da,
    0x983e5152, 0xa831c66d, 0xb00327c8, 0xbf597fc7, 0xc6e00bf3, 0xd5a79147, 0x06ca6351, 0x14292967,
    0x27b70a85, 0x2e1b2138, 0x4d2c6dfc, 0x53380d13, 0x650a7354, 0x766a0abb, 0x81c2c92e, 0x92722c85,
    0xa2bfe8a1, 0xa81a664b, 0xc24b8b70, 0xc76c51a3, 0xd192e819, 0xd6990624, 0xf40e3585, 0x106aa070,
    0x19a4c116, 0x1e376c08, 0x2748774c, 0x34b0bcb5, 0x391c0cb3, 0x4ed8aa4a, 0x5b9cca4f, 0x682e6ff3,
    0x748f82ee, 0x78a5636f, 0x84c87814, 0x8cc70208, 0x90befffa, 0xa4506ceb, 0xbef9a3f7, 0xc67178f2]

def words : List UInt8 → List UInt32
  | a :: b :: c :: d :: rest =>
      UInt32.fromBeBytes ⟨[a, b, c, d], Octets.length_four a b c d⟩ :: words rest
  | _ => []

/-- The message schedule, from the words of a block and latest first. -/
def schedule : Nat → List UInt32 → List UInt32
  | 0, ws => ws
  | n + 1, ws =>
      let w2 := ws.getD 1 0
      let w15 := ws.getD 14 0
      let s1 := rotr w2 17 ^^^ rotr w2 19 ^^^ (w2 >>> 10)
      let s0 := rotr w15 7 ^^^ rotr w15 18 ^^^ (w15 >>> 3)
      schedule n ((s1 + ws.getD 6 0 + s0 + ws.getD 15 0) :: ws)

def round (r : Registers) (kw : UInt32 × UInt32) : Registers :=
  let s1 := rotr r.e 6 ^^^ rotr r.e 11 ^^^ rotr r.e 25
  let ch := (r.e &&& r.f) ^^^ (~~~r.e &&& r.g)
  let t1 := r.h + s1 + ch + kw.1 + kw.2
  let s0 := rotr r.a 2 ^^^ rotr r.a 13 ^^^ rotr r.a 22
  let maj := (r.a &&& r.b) ^^^ (r.a &&& r.c) ^^^ (r.b &&& r.c)
  ⟨t1 + s0 + maj, r.a, r.b, r.c, r.d + t1, r.e, r.f, r.g⟩

def compress (r : Registers) (block : List UInt8) : Registers :=
  r.add ((roundConstants.zip (schedule 48 (words block).reverse).reverse).foldl round r)

/-- The message, a one bit, zeros up to the length field, and the length in bits. -/
def pad (message : List UInt8) : List UInt8 :=
  message ++ 0x80 :: List.replicate ((119 - message.length % 64) % 64) 0 ++
    Octets.beBytes 8 (8 * message.length)

def hash (message : List UInt8) : List UInt8 :=
  let padded := pad message
  ((List.range (padded.length / 64)).foldl (fun r i => compress r ((padded.drop (64 * i)).take 64))
    .initial).toBytes

/-- HMAC over SHA-256. -/
def hmac (key message : List UInt8) : List UInt8 :=
  let key := if key.length ≤ 64 then key else hash key
  let key := key ++ List.replicate (64 - key.length) 0
  hash (key.map (· ^^^ 0x5C) ++ hash (key.map (· ^^^ 0x36) ++ message))

end Sha256

namespace Primitives

/-- The primitives of the external crates. -/
def standard : Primitives where
  aes128 := Aes.encrypt
  cmac := Cmac.mac
  hmacSha256 key message :=
    ⟨Octets.beBytes 32 (Octets.beValue (Sha256.hmac key message)), Octets.length_beBytes 32 _⟩

end Primitives

end Midn
