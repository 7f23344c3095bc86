import FormCompiler.Database.Bytes
import FormCompiler.Store.Obstacle

namespace FormCompiler.Database

open Store (Code)

structure Log where
  bytes : ByteArray := .empty
  pageSize : Nat := 0
  frames : Array (Nat × ByteArray) := #[]
  count : Nat := 0
  sum : Nat × Nat := (0, 0)

namespace Log

def magic : Nat := 0x377F0682

def version : Nat := 3007000

def salt : Nat × Nat := (0x6D1F03A5, 0x29C8E741)

def wordAt (b : ByteArray) (i : Nat) : Nat :=
  Bytes.byte b i + 256 * (Bytes.byte b (i + 1) + 256 * (Bytes.byte b (i + 2) + 256 * Bytes.byte b (i + 3)))

def addSum (b : ByteArray) : Nat → Nat → Nat × Nat → Nat × Nat
  | 0, _, s => s
  | steps + 1, i, (x, y) =>
    let x := (x + wordAt b i + y) % 0x100000000
    let y := (y + wordAt b (i + 4) + x) % 0x100000000
    addSum b steps (i + 8) (x, y)

def sumOf (s : Nat × Nat) (b : ByteArray) : Nat × Nat := addSum b (b.size / 8) 0 s

def longs (ns : List Nat) : ByteArray := (ns.flatMap (Bytes.ofNumber 4)).toByteArray

def start (pageSize : Nat) : Log :=
  let head := longs [magic, version, pageSize, 0, salt.1, salt.2]
  let sum := sumOf (0, 0) head
  { bytes := head ++ longs [sum.1, sum.2], pageSize, sum }

def push (log : Log) (n count : Nat) (data : ByteArray) : Log :=
  let head := longs [n, count]
  let sum := sumOf (sumOf log.sum head) data
  { log with
    bytes := log.bytes ++ head ++ longs [salt.1, salt.2, sum.1, sum.2] ++ data
    frames := log.frames.push (n, data)
    count
    sum }

def append (log : Log) (pages : List (Nat × ByteArray)) (count : Nat) : Log :=
  (pages.zipIdx).foldl (fun log (p, i) => log.push p.1 (if i + 1 = pages.length then count else 0) p.2) log

def readFrames (b : ByteArray) : Nat → Log → Log → Log
  | 0, _, whole => whole
  | more + 1, log, whole =>
    let i := log.bytes.size
    let size := log.pageSize
    if b.size < i + 24 + size then whole
    else
      let n := Bytes.long b i
      let count := Bytes.long b (i + 4)
      let data := b.extract (i + 24) (i + 24 + size)
      let next := log.push n count data
      let isRight : Bool := n != 0 && Bytes.long b (i + 8) == salt.1 && Bytes.long b (i + 12) == salt.2
        && Bytes.long b (i + 16) == next.sum.1 && Bytes.long b (i + 20) == next.sum.2
      if isRight then readFrames b more next (if count = 0 then whole else next) else whole

def read (b : ByteArray) : Except Code Log :=
  let size := Bytes.long b 8
  let fresh := start size
  if b.size < 32 || Bytes.long b 0 != magic || fresh.bytes.extract 24 32 != b.extract 24 32 then .ok {}
  else if Bytes.long b 4 != version then .error .cannotOpen
  else .ok (readFrames b (b.size / (size + 24) + 1) fresh fresh)

def applyTo (log : Log) (file : ByteArray) : ByteArray :=
  if log.frames.isEmpty then file
  else
    let sized := Bytes.resize file (log.count * log.pageSize)
    log.frames.foldl (fun b (n, data) => Bytes.overlay b ((n - 1) * log.pageSize) data) sized

end Log

end FormCompiler.Database
