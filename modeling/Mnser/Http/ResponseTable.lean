import Mathlib.Data.List.GetD
import Mnser.Framework.Scanner
import Mnser.Http.RequestTable
import Mnser.Strtol

/-! # The response scanner

    The state machine generated from `httpclient_parser.rl`, for the header of
    a response and for the line in front of a chunk.  The rows are as in the
    request scanner. -/

namespace MNSER

namespace Http

namespace HttpClientParser

open Scanner
open HttpParser (Goto Row)

/-! ## Section 1: Actions -/

inductive Reg where
  | mark
  | field_start
  | field_len
  deriving DecidableEq

/-- The length in `field_len` is measured from `field_start`. -/
def origin : Reg → Option Reg
  | .field_len => some .field_start
  | _          => none

/-- The actions that do more than note a position. -/
inductive Callback where
  | http_field
  | reason_phrase
  | status_code
  | http_version
  | chunk_size
  | content_len
  | connection_close
  | chunked
  | done
  deriving DecidableEq

abbrev Action : Type := Act Reg Callback

def mark : Action                   := .mark .mark
def start_field : Action            := .mark .field_start
def write_field : Action            := .measure .field_len
def start_value : Action            := .mark .mark
def write_content_len : Action      := .call .content_len
def write_connection_close : Action := .call .connection_close
def write_value : Action            := .call .http_field
def reason_phrase : Action          := .call .reason_phrase
def status_code : Action            := .call .status_code
def http_version : Action           := .call .http_version
def chunk_size : Action             := .call .chunk_size
def trans_chunked : Action          := .call .chunked
def done : Action                   := .call .done

/-! ## Section 2: Transitions -/

def httpclient_parser_start : Nat := 1
def httpclient_parser_first_final : Nat := 120
def httpclient_parser_error : Nat := 0

def tr : Nat → Step Nat Action
  | 0 => .next 2 [mark]
  | 2 => .next 8 [mark]
  | 3 => .last 120 [chunk_size, done]
  | 4 => .next 3 [chunk_size]
  | 6 => .next 4 [chunk_size]
  | 7 => .last 120 [done]
  | 8 => .next 5 [start_field]
  | 9 => .last 120 [write_field, start_value, write_value, done]
  | 10 => .next 3 [write_field, start_value, write_value]
  | 12 => .next 4 [write_field, start_value, write_value]
  | 13 => .next 6 [write_field, start_value]
  | 14 => .next 7 [start_value]
  | 15 => .last 120 [write_value, done]
  | 16 => .next 3 [write_value]
  | 18 => .next 4 [write_value]
  | 26 => .next 16 [http_version]
  | 27 => .next 17 [mark]
  | 28 => .next 18 [status_code]
  | 30 => .next 19 [mark]
  | 32 => .next 20 [reason_phrase]
  | 33 => .next 24 [reason_phrase]
  | 35 => .next 21 [start_field]
  | 36 => .next 25 [start_field]
  | 37 => .next 44 [start_field]
  | 39 => .next 22 [write_field]
  | 40 => .next 23 [start_value]
  | 41 => .next 22 [start_value]
  | 42 => .next 20 [start_value, write_value]
  | 43 => .next 24 [start_value, write_value]
  | 45 => .next 20 [write_value]
  | 46 => .next 24 [write_value]
  | 58 => .next 35 [write_field]
  | 59 => .next 35 [start_value]
  | 60 => .next 36 [start_value, write_value]
  | 61 => .next 95 [start_value, write_value]
  | 62 => .next 96 [start_value]
  | 64 => .last 122 [done]
  | 66 => .next 90 [start_field]
  | 74 => .last 120 [write_connection_close, done]
  | 75 => .next 3 [write_connection_close]
  | 76 => .next 21 [write_connection_close, start_field]
  | 77 => .next 25 [write_connection_close, start_field]
  | 78 => .next 44 [write_connection_close, start_field]
  | 95 => .next 61 [write_field]
  | 96 => .next 61 [start_value]
  | 97 => .next 62 [start_value, write_value]
  | 98 => .next 80 [start_value, write_value]
  | 99 => .next 81 [start_value]
  | 101 => .last 121 [done]
  | 103 => .next 73 [start_value, start_field]
  | 104 => .next 64 [start_value]
  | 111 => .next 20 [write_value, trans_chunked]
  | 112 => .next 71 [write_value]
  | 113 => .next 20 [trans_chunked]
  | 136 => .next 43 [write_value]
  | 137 => .next 88 [write_value]
  | 148 => .next 112 [write_field]
  | 149 => .next 112 [start_value]
  | 150 => .next 113 [start_value, write_value]
  | 151 => .next 118 [start_value, write_value]
  | 152 => .next 119 [start_value]
  | 154 => .last 123 [done]
  | 156 => .next 117 [start_value, start_field]
  | 157 => .next 115 [start_value]
  | 158 => .next 20 [write_content_len, write_value]
  | 159 => .next 24 [write_content_len, write_value]
  | _ => .fail 0

def rows0 : List Row := [
  /- 0 -/ [],
  /- 1 -/ [(48, 57, .tr 0), (65, 70, .tr 0), (72, 72, .tr 2), (97, 102, .tr 0)],
  /- 2 -/ [(10, 10, .tr 3), (13, 13, .tr 4), (48, 57, .st 2), (59, 59, .tr 6), (65, 70, .st 2),
     (97, 102, .st 2)],
  /- 3 -/ [(10, 10, .tr 7)],
  /- 4 -/ [(33, 33, .tr 8), (35, 39, .tr 8), (42, 43, .tr 8), (45, 46, .tr 8), (48, 57, .tr 8),
     (65, 90, .tr 8), (94, 122, .tr 8), (124, 124, .tr 8), (126, 126, .tr 8)],
  /- 5 -/ [(10, 10, .tr 9), (13, 13, .tr 10), (33, 33, .st 5), (35, 39, .st 5), (42, 43, .st 5),
     (45, 46, .st 5), (48, 57, .st 5), (59, 59, .tr 12), (61, 61, .tr 13), (65, 90, .st 5),
     (94, 122, .st 5), (124, 124, .st 5), (126, 126, .st 5)],
  /- 6 -/ [(33, 33, .tr 14), (35, 39, .tr 14), (42, 43, .tr 14), (45, 46, .tr 14),
     (48, 57, .tr 14), (65, 90, .tr 14), (94, 122, .tr 14), (124, 124, .tr 14),
     (126, 126, .tr 14)],
  /- 7 -/ [(10, 10, .tr 15), (13, 13, .tr 16), (33, 33, .st 7), (35, 39, .st 7),
     (42, 43, .st 7), (45, 46, .st 7), (48, 57, .st 7), (59, 59, .tr 18), (65, 90, .st 7),
     (94, 122, .st 7), (124, 124, .st 7), (126, 126, .st 7)],
  /- 8 -/ [(84, 84, .st 9)],
  /- 9 -/ [(84, 84, .st 10)],
  /- 10 -/ [(80, 80, .st 11)],
  /- 11 -/ [(47, 47, .st 12)],
  /- 12 -/ [(48, 57, .st 13)],
  /- 13 -/ [(46, 46, .st 14), (48, 57, .st 13)],
  /- 14 -/ [(48, 57, .st 15)],
  /- 15 -/ [(32, 32, .tr 26), (48, 57, .st 15)],
  /- 16 -/ [(48, 57, .tr 27)],
  /- 17 -/ [(32, 32, .tr 28), (48, 57, .st 17)],
  /- 18 -/ [(0, 9, .tr 30), (11, 255, .tr 30)],
  /- 19 -/ [(0, 9, .st 19), (10, 10, .tr 32), (11, 12, .st 19), (13, 13, .tr 33),
     (14, 255, .st 19)],
  /- 20 -/ [(10, 10, .tr 7), (13, 13, .st 3), (33, 33, .tr 35), (35, 39, .tr 35),
     (42, 43, .tr 35), (45, 46, .tr 35), (48, 57, .tr 35), (65, 66, .tr 35), (67, 67, .tr 36),
     (68, 83, .tr 35), (84, 84, .tr 37), (85, 90, .tr 35), (94, 98, .tr 35), (99, 99, .tr 36),
     (100, 115, .tr 35), (116, 116, .tr 37), (117, 122, .tr 35), (124, 124, .tr 35),
     (126, 126, .tr 35)],
  /- 21 -/ [(33, 33, .st 21), (35, 39, .st 21), (42, 43, .st 21), (45, 46, .st 21),
     (48, 57, .st 21), (58, 58, .tr 39), (65, 90, .st 21), (94, 122, .st 21),
     (124, 124, .st 21), (126, 126, .st 21)],
  /- 22 -/ [(0, 8, .tr 40), (9, 9, .tr 41), (10, 10, .tr 42), (11, 12, .tr 41),
     (13, 13, .tr 43), (14, 31, .tr 40), (32, 32, .tr 41), (33, 255, .tr 40)],
  /- 23 -/ [(0, 9, .st 23), (10, 10, .tr 45), (11, 12, .st 23), (13, 13, .tr 46),
     (14, 255, .st 23)],
  /- 24 -/ [(10, 10, .st 20)],
  /- 25 -/ [(33, 33, .st 21), (35, 39, .st 21), (42, 43, .st 21), (45, 46, .st 21),
     (48, 57, .st 21), (58, 58, .tr 39), (65, 78, .st 21), (79, 79, .st 26), (80, 90, .st 21),
     (94, 110, .st 21), (111, 111, .st 26), (112, 122, .st 21), (124, 124, .st 21),
     (126, 126, .st 21)],
  /- 26 -/ [(33, 33, .st 21), (35, 39, .st 21), (42, 43, .st 21), (45, 46, .st 21),
     (48, 57, .st 21), (58, 58, .tr 39), (65, 77, .st 21), (78, 78, .st 27), (79, 90, .st 21),
     (94, 109, .st 21), (110, 110, .st 27), (111, 122, .st 21), (124, 124, .st 21),
     (126, 126, .st 21)],
  /- 27 -/ [(33, 33, .st 21), (35, 39, .st 21), (42, 43, .st 21), (45, 46, .st 21),
     (48, 57, .st 21), (58, 58, .tr 39), (65, 77, .st 21), (78, 78, .st 28), (79, 83, .st 21),
     (84, 84, .st 101), (85, 90, .st 21), (94, 109, .st 21), (110, 110, .st 28),
     (111, 115, .st 21), (116, 116, .st 101), (117, 122, .st 21), (124, 124, .st 21),
     (126, 126, .st 21)],
  /- 28 -/ [(33, 33, .st 21), (35, 39, .st 21), (42, 43, .st 21), (45, 46, .st 21),
     (48, 57, .st 21), (58, 58, .tr 39), (65, 68, .st 21), (69, 69, .st 29), (70, 90, .st 21),
     (94, 100, .st 21), (101, 101, .st 29), (102, 122, .st 21), (124, 124, .st 21),
     (126, 126, .st 21)],
  /- 29 -/ [(33, 33, .st 21), (35, 39, .st 21), (42, 43, .st 21), (45, 46, .st 21),
     (48, 57, .st 21), (58, 58, .tr 39), (65, 66, .st 21), (67, 67, .st 30), (68, 90, .st 21),
     (94, 98, .st 21), (99, 99, .st 30), (100, 122, .st 21), (124, 124, .st 21),
     (126, 126, .st 21)],
  /- 30 -/ [(33, 33, .st 21), (35, 39, .st 21), (42, 43, .st 21), (45, 46, .st 21),
     (48, 57, .st 21), (58, 58, .tr 39), (65, 83, .st 21), (84, 84, .st 31), (85, 90, .st 21),
     (94, 115, .st 21), (116, 116, .st 31), (117, 122, .st 21), (124, 124, .st 21),
     (126, 126, .st 21)],
  /- 31 -/ [(33, 33, .st 21), (35, 39, .st 21), (42, 43, .st 21), (45, 46, .st 21),
     (48, 57, .st 21), (58, 58, .tr 39), (65, 72, .st 21), (73, 73, .st 32), (74, 90, .st 21),
     (94, 104, .st 21), (105, 105, .st 32), (106, 122, .st 21), (124, 124, .st 21),
     (126, 126, .st 21)],
  /- 32 -/ [(33, 33, .st 21), (35, 39, .st 21), (42, 43, .st 21), (45, 46, .st 21),
     (48, 57, .st 21), (58, 58, .tr 39), (65, 78, .st 21), (79, 79, .st 33), (80, 90, .st 21),
     (94, 110, .st 21), (111, 111, .st 33), (112, 122, .st 21), (124, 124, .st 21),
     (126, 126, .st 21)],
  /- 33 -/ [(33, 33, .st 21), (35, 39, .st 21), (42, 43, .st 21), (45, 46, .st 21),
     (48, 57, .st 21), (58, 58, .tr 39), (65, 77, .st 21), (78, 78, .st 34), (79, 90, .st 21),
     (94, 109, .st 21), (110, 110, .st 34), (111, 122, .st 21), (124, 124, .st 21),
     (126, 126, .st 21)],
  /- 34 -/ [(33, 33, .st 21), (35, 39, .st 21), (42, 43, .st 21), (45, 46, .st 21),
     (48, 57, .st 21), (58, 58, .tr 58), (65, 90, .st 21), (94, 122, .st 21),
     (124, 124, .st 21), (126, 126, .st 21)],
  /- 35 -/ [(0, 8, .tr 40), (9, 9, .tr 59), (10, 10, .tr 60), (11, 12, .tr 59),
     (13, 13, .tr 61), (14, 31, .tr 40), (32, 32, .tr 59), (33, 66, .tr 40), (67, 67, .tr 62),
     (68, 98, .tr 40), (99, 99, .tr 62), (100, 255, .tr 40)],
  /- 36 -/ [(9, 9, .st 37), (10, 10, .tr 64), (11, 12, .st 37), (13, 13, .st 89),
     (32, 32, .st 37), (33, 33, .tr 35), (35, 39, .tr 35), (42, 43, .tr 35), (45, 46, .tr 35),
     (48, 57, .tr 35), (65, 66, .tr 35), (67, 67, .tr 66), (68, 83, .tr 35), (84, 84, .tr 37),
     (85, 90, .tr 35), (94, 98, .tr 35), (99, 99, .tr 66), (100, 115, .tr 35),
     (116, 116, .tr 37), (117, 122, .tr 35), (124, 124, .tr 35), (126, 126, .tr 35)],
  /- 37 -/ [(9, 13, .st 37), (32, 32, .st 37), (67, 67, .st 38), (99, 99, .st 38)],
  /- 38 -/ [(76, 76, .st 39), (108, 108, .st 39)],
  /- 39 -/ [(79, 79, .st 40), (111, 111, .st 40)],
  /- 40 -/ [(83, 83, .st 41), (115, 115, .st 41)],
  /- 41 -/ [(69, 69, .st 42), (101, 101, .st 42)],
  /- 42 -/ [(10, 10, .st 43), (13, 13, .st 88)],
  /- 43 -/ [(10, 10, .tr 74), (13, 13, .tr 75), (33, 33, .tr 76), (35, 39, .tr 76),
     (42, 43, .tr 76), (45, 46, .tr 76), (48, 57, .tr 76), (65, 66, .tr 76), (67, 67, .tr 77),
     (68, 83, .tr 76), (84, 84, .tr 78), (85, 90, .tr 76), (94, 98, .tr 76), (99, 99, .tr 77),
     (100, 115, .tr 76), (116, 116, .tr 78), (117, 122, .tr 76), (124, 124, .tr 76),
     (126, 126, .tr 76)],
  /- 44 -/ [(33, 33, .st 21), (35, 39, .st 21), (42, 43, .st 21), (45, 46, .st 21),
     (48, 57, .st 21), (58, 58, .tr 39), (65, 81, .st 21), (82, 82, .st 45), (83, 90, .st 21),
     (94, 113, .st 21), (114, 114, .st 45), (115, 122, .st 21), (124, 124, .st 21),
     (126, 126, .st 21)],
  /- 45 -/ [(33, 33, .st 21), (35, 39, .st 21), (42, 43, .st 21), (45, 46, .st 21),
     (48, 57, .st 21), (58, 58, .tr 39), (65, 65, .st 46), (66, 90, .st 21), (94, 96, .st 21),
     (97, 97, .st 46), (98, 122, .st 21), (124, 124, .st 21), (126, 126, .st 21)],
  /- 46 -/ [(33, 33, .st 21), (35, 39, .st 21), (42, 43, .st 21), (45, 46, .st 21),
     (48, 57, .st 21), (58, 58, .tr 39), (65, 77, .st 21), (78, 78, .st 47), (79, 90, .st 21),
     (94, 109, .st 21), (110, 110, .st 47), (111, 122, .st 21), (124, 124, .st 21),
     (126, 126, .st 21)],
  /- 47 -/ [(33, 33, .st 21), (35, 39, .st 21), (42, 43, .st 21), (45, 46, .st 21),
     (48, 57, .st 21), (58, 58, .tr 39), (65, 82, .st 21), (83, 83, .st 48), (84, 90, .st 21),
     (94, 114, .st 21), (115, 115, .st 48), (116, 122, .st 21), (124, 124, .st 21),
     (126, 126, .st 21)],
  /- 48 -/ [(33, 33, .st 21), (35, 39, .st 21), (42, 43, .st 21), (45, 46, .st 21),
     (48, 57, .st 21), (58, 58, .tr 39), (65, 69, .st 21), (70, 70, .st 49), (71, 90, .st 21),
     (94, 101, .st 21), (102, 102, .st 49), (103, 122, .st 21), (124, 124, .st 21),
     (126, 126, .st 21)],
  /- 49 -/ [(33, 33, .st 21), (35, 39, .st 21), (42, 43, .st 21), (45, 46, .st 21),
     (48, 57, .st 21), (58, 58, .tr 39), (65, 68, .st 21), (69, 69, .st 50), (70, 90, .st 21),
     (94, 100, .st 21), (101, 101, .st 50), (102, 122, .st 21), (124, 124, .st 21),
     (126, 126, .st 21)]]

def rows1 : List Row := [
  /- 50 -/ [(33, 33, .st 21), (35, 39, .st 21), (42, 43, .st 21), (45, 46, .st 21),
     (48, 57, .st 21), (58, 58, .tr 39), (65, 81, .st 21), (82, 82, .st 51), (83, 90, .st 21),
     (94, 113, .st 21), (114, 114, .st 51), (115, 122, .st 21), (124, 124, .st 21),
     (126, 126, .st 21)],
  /- 51 -/ [(33, 33, .st 21), (35, 39, .st 21), (42, 43, .st 21), (45, 45, .st 52),
     (46, 46, .st 21), (48, 57, .st 21), (58, 58, .tr 39), (65, 90, .st 21), (94, 122, .st 21),
     (124, 124, .st 21), (126, 126, .st 21)],
  /- 52 -/ [(33, 33, .st 21), (35, 39, .st 21), (42, 43, .st 21), (45, 46, .st 21),
     (48, 57, .st 21), (58, 58, .tr 39), (65, 68, .st 21), (69, 69, .st 53), (70, 90, .st 21),
     (94, 100, .st 21), (101, 101, .st 53), (102, 122, .st 21), (124, 124, .st 21),
     (126, 126, .st 21)],
  /- 53 -/ [(33, 33, .st 21), (35, 39, .st 21), (42, 43, .st 21), (45, 46, .st 21),
     (48, 57, .st 21), (58, 58, .tr 39), (65, 77, .st 21), (78, 78, .st 54), (79, 90, .st 21),
     (94, 109, .st 21), (110, 110, .st 54), (111, 122, .st 21), (124, 124, .st 21),
     (126, 126, .st 21)],
  /- 54 -/ [(33, 33, .st 21), (35, 39, .st 21), (42, 43, .st 21), (45, 46, .st 21),
     (48, 57, .st 21), (58, 58, .tr 39), (65, 66, .st 21), (67, 67, .st 55), (68, 90, .st 21),
     (94, 98, .st 21), (99, 99, .st 55), (100, 122, .st 21), (124, 124, .st 21),
     (126, 126, .st 21)],
  /- 55 -/ [(33, 33, .st 21), (35, 39, .st 21), (42, 43, .st 21), (45, 46, .st 21),
     (48, 57, .st 21), (58, 58, .tr 39), (65, 78, .st 21), (79, 79, .st 56), (80, 90, .st 21),
     (94, 110, .st 21), (111, 111, .st 56), (112, 122, .st 21), (124, 124, .st 21),
     (126, 126, .st 21)],
  /- 56 -/ [(33, 33, .st 21), (35, 39, .st 21), (42, 43, .st 21), (45, 46, .st 21),
     (48, 57, .st 21), (58, 58, .tr 39), (65, 67, .st 21), (68, 68, .st 57), (69, 90, .st 21),
     (94, 99, .st 21), (100, 100, .st 57), (101, 122, .st 21), (124, 124, .st 21),
     (126, 126, .st 21)],
  /- 57 -/ [(33, 33, .st 21), (35, 39, .st 21), (42, 43, .st 21), (45, 46, .st 21),
     (48, 57, .st 21), (58, 58, .tr 39), (65, 72, .st 21), (73, 73, .st 58), (74, 90, .st 21),
     (94, 104, .st 21), (105, 105, .st 58), (106, 122, .st 21), (124, 124, .st 21),
     (126, 126, .st 21)],
  /- 58 -/ [(33, 33, .st 21), (35, 39, .st 21), (42, 43, .st 21), (45, 46, .st 21),
     (48, 57, .st 21), (58, 58, .tr 39), (65, 77, .st 21), (78, 78, .st 59), (79, 90, .st 21),
     (94, 109, .st 21), (110, 110, .st 59), (111, 122, .st 21), (124, 124, .st 21),
     (126, 126, .st 21)],
  /- 59 -/ [(33, 33, .st 21), (35, 39, .st 21), (42, 43, .st 21), (45, 46, .st 21),
     (48, 57, .st 21), (58, 58, .tr 39), (65, 70, .st 21), (71, 71, .st 60), (72, 90, .st 21),
     (94, 102, .st 21), (103, 103, .st 60), (104, 122, .st 21), (124, 124, .st 21),
     (126, 126, .st 21)],
  /- 60 -/ [(33, 33, .st 21), (35, 39, .st 21), (42, 43, .st 21), (45, 46, .st 21),
     (48, 57, .st 21), (58, 58, .tr 95), (65, 90, .st 21), (94, 122, .st 21),
     (124, 124, .st 21), (126, 126, .st 21)],
  /- 61 -/ [(0, 8, .tr 40), (9, 9, .tr 96), (10, 10, .tr 97), (11, 12, .tr 96),
     (13, 13, .tr 98), (14, 31, .tr 40), (32, 32, .tr 96), (33, 66, .tr 40), (67, 67, .tr 99),
     (68, 98, .tr 40), (99, 99, .tr 99), (100, 255, .tr 40)],
  /- 62 -/ [(9, 9, .st 63), (10, 10, .tr 101), (11, 12, .st 63), (13, 13, .st 72),
     (32, 32, .st 63), (33, 33, .tr 35), (35, 39, .tr 35), (42, 43, .tr 35), (45, 46, .tr 35),
     (48, 57, .tr 35), (65, 66, .tr 35), (67, 67, .tr 103), (68, 83, .tr 35), (84, 84, .tr 37),
     (85, 90, .tr 35), (94, 98, .tr 35), (99, 99, .tr 103), (100, 115, .tr 35),
     (116, 116, .tr 37), (117, 122, .tr 35), (124, 124, .tr 35), (126, 126, .tr 35)],
  /- 63 -/ [(9, 13, .st 63), (32, 32, .st 63), (67, 67, .tr 104), (99, 99, .tr 104)],
  /- 64 -/ [(72, 72, .st 65), (104, 104, .st 65)],
  /- 65 -/ [(85, 85, .st 66), (117, 117, .st 66)],
  /- 66 -/ [(78, 78, .st 67), (110, 110, .st 67)],
  /- 67 -/ [(75, 75, .st 68), (107, 107, .st 68)],
  /- 68 -/ [(69, 69, .st 69), (101, 101, .st 69)],
  /- 69 -/ [(68, 68, .st 70), (100, 100, .st 70)],
  /- 70 -/ [(10, 10, .tr 111), (13, 13, .tr 112)],
  /- 71 -/ [(10, 10, .tr 113)],
  /- 72 -/ [(9, 9, .st 63), (10, 10, .tr 101), (11, 13, .st 63), (32, 32, .st 63),
     (67, 67, .tr 104), (99, 99, .tr 104)],
  /- 73 -/ [(33, 33, .st 21), (35, 39, .st 21), (42, 43, .st 21), (45, 46, .st 21),
     (48, 57, .st 21), (58, 58, .tr 39), (65, 71, .st 21), (72, 72, .st 74), (73, 78, .st 21),
     (79, 79, .st 26), (80, 90, .st 21), (94, 103, .st 21), (104, 104, .st 74),
     (105, 110, .st 21), (111, 111, .st 26), (112, 122, .st 21), (124, 124, .st 21),
     (126, 126, .st 21)],
  /- 74 -/ [(33, 33, .st 21), (35, 39, .st 21), (42, 43, .st 21), (45, 46, .st 21),
     (48, 57, .st 21), (58, 58, .tr 39), (65, 84, .st 21), (85, 85, .st 75), (86, 90, .st 21),
     (94, 116, .st 21), (117, 117, .st 75), (118, 122, .st 21), (124, 124, .st 21),
     (126, 126, .st 21)],
  /- 75 -/ [(33, 33, .st 21), (35, 39, .st 21), (42, 43, .st 21), (45, 46, .st 21),
     (48, 57, .st 21), (58, 58, .tr 39), (65, 77, .st 21), (78, 78, .st 76), (79, 90, .st 21),
     (94, 109, .st 21), (110, 110, .st 76), (111, 122, .st 21), (124, 124, .st 21),
     (126, 126, .st 21)],
  /- 76 -/ [(33, 33, .st 21), (35, 39, .st 21), (42, 43, .st 21), (45, 46, .st 21),
     (48, 57, .st 21), (58, 58, .tr 39), (65, 74, .st 21), (75, 75, .st 77), (76, 90, .st 21),
     (94, 106, .st 21), (107, 107, .st 77), (108, 122, .st 21), (124, 124, .st 21),
     (126, 126, .st 21)],
  /- 77 -/ [(33, 33, .st 21), (35, 39, .st 21), (42, 43, .st 21), (45, 46, .st 21),
     (48, 57, .st 21), (58, 58, .tr 39), (65, 68, .st 21), (69, 69, .st 78), (70, 90, .st 21),
     (94, 100, .st 21), (101, 101, .st 78), (102, 122, .st 21), (124, 124, .st 21),
     (126, 126, .st 21)],
  /- 78 -/ [(33, 33, .st 21), (35, 39, .st 21), (42, 43, .st 21), (45, 46, .st 21),
     (48, 57, .st 21), (58, 58, .tr 39), (65, 67, .st 21), (68, 68, .st 79), (69, 90, .st 21),
     (94, 99, .st 21), (100, 100, .st 79), (101, 122, .st 21), (124, 124, .st 21),
     (126, 126, .st 21)],
  /- 79 -/ [(10, 10, .tr 111), (13, 13, .tr 112), (33, 33, .st 21), (35, 39, .st 21),
     (42, 43, .st 21), (45, 46, .st 21), (48, 57, .st 21), (58, 58, .tr 39), (65, 90, .st 21),
     (94, 122, .st 21), (124, 124, .st 21), (126, 126, .st 21)],
  /- 80 -/ [(9, 9, .st 63), (10, 10, .st 62), (11, 13, .st 63), (32, 32, .st 63),
     (67, 67, .tr 104), (99, 99, .tr 104)],
  /- 81 -/ [(0, 9, .st 23), (10, 10, .tr 45), (11, 12, .st 23), (13, 13, .tr 46),
     (14, 71, .st 23), (72, 72, .st 82), (73, 103, .st 23), (104, 104, .st 82),
     (105, 255, .st 23)],
  /- 82 -/ [(0, 9, .st 23), (10, 10, .tr 45), (11, 12, .st 23), (13, 13, .tr 46),
     (14, 84, .st 23), (85, 85, .st 83), (86, 116, .st 23), (117, 117, .st 83),
     (118, 255, .st 23)],
  /- 83 -/ [(0, 9, .st 23), (10, 10, .tr 45), (11, 12, .st 23), (13, 13, .tr 46),
     (14, 77, .st 23), (78, 78, .st 84), (79, 109, .st 23), (110, 110, .st 84),
     (111, 255, .st 23)],
  /- 84 -/ [(0, 9, .st 23), (10, 10, .tr 45), (11, 12, .st 23), (13, 13, .tr 46),
     (14, 74, .st 23), (75, 75, .st 85), (76, 106, .st 23), (107, 107, .st 85),
     (108, 255, .st 23)],
  /- 85 -/ [(0, 9, .st 23), (10, 10, .tr 45), (11, 12, .st 23), (13, 13, .tr 46),
     (14, 68, .st 23), (69, 69, .st 86), (70, 100, .st 23), (101, 101, .st 86),
     (102, 255, .st 23)],
  /- 86 -/ [(0, 9, .st 23), (10, 10, .tr 45), (11, 12, .st 23), (13, 13, .tr 46),
     (14, 67, .st 23), (68, 68, .st 87), (69, 99, .st 23), (100, 100, .st 87),
     (101, 255, .st 23)],
  /- 87 -/ [(0, 9, .st 23), (10, 10, .tr 111), (11, 12, .st 23), (13, 13, .tr 112),
     (14, 255, .st 23)],
  /- 88 -/ [(10, 10, .st 43)],
  /- 89 -/ [(9, 9, .st 37), (10, 10, .tr 64), (11, 13, .st 37), (32, 32, .st 37),
     (67, 67, .st 38), (99, 99, .st 38)],
  /- 90 -/ [(33, 33, .st 21), (35, 39, .st 21), (42, 43, .st 21), (45, 46, .st 21),
     (48, 57, .st 21), (58, 58, .tr 39), (65, 75, .st 21), (76, 76, .st 91), (77, 78, .st 21),
     (79, 79, .st 26), (80, 90, .st 21), (94, 107, .st 21), (108, 108, .st 91),
     (109, 110, .st 21), (111, 111, .st 26), (112, 122, .st 21), (124, 124, .st 21),
     (126, 126, .st 21)],
  /- 91 -/ [(33, 33, .st 21), (35, 39, .st 21), (42, 43, .st 21), (45, 46, .st 21),
     (48, 57, .st 21), (58, 58, .tr 39), (65, 78, .st 21), (79, 79, .st 92), (80, 90, .st 21),
     (94, 110, .st 21), (111, 111, .st 92), (112, 122, .st 21), (124, 124, .st 21),
     (126, 126, .st 21)],
  /- 92 -/ [(33, 33, .st 21), (35, 39, .st 21), (42, 43, .st 21), (45, 46, .st 21),
     (48, 57, .st 21), (58, 58, .tr 39), (65, 82, .st 21), (83, 83, .st 93), (84, 90, .st 21),
     (94, 114, .st 21), (115, 115, .st 93), (116, 122, .st 21), (124, 124, .st 21),
     (126, 126, .st 21)],
  /- 93 -/ [(33, 33, .st 21), (35, 39, .st 21), (42, 43, .st 21), (45, 46, .st 21),
     (48, 57, .st 21), (58, 58, .tr 39), (65, 68, .st 21), (69, 69, .st 94), (70, 90, .st 21),
     (94, 100, .st 21), (101, 101, .st 94), (102, 122, .st 21), (124, 124, .st 21),
     (126, 126, .st 21)],
  /- 94 -/ [(10, 10, .st 43), (13, 13, .st 88), (33, 33, .st 21), (35, 39, .st 21),
     (42, 43, .st 21), (45, 46, .st 21), (48, 57, .st 21), (58, 58, .tr 39), (65, 90, .st 21),
     (94, 122, .st 21), (124, 124, .st 21), (126, 126, .st 21)],
  /- 95 -/ [(9, 9, .st 37), (10, 10, .st 36), (11, 13, .st 37), (32, 32, .st 37),
     (67, 67, .st 38), (99, 99, .st 38)],
  /- 96 -/ [(0, 9, .st 23), (10, 10, .tr 45), (11, 12, .st 23), (13, 13, .tr 46),
     (14, 75, .st 23), (76, 76, .st 97), (77, 107, .st 23), (108, 108, .st 97),
     (109, 255, .st 23)],
  /- 97 -/ [(0, 9, .st 23), (10, 10, .tr 45), (11, 12, .st 23), (13, 13, .tr 46),
     (14, 78, .st 23), (79, 79, .st 98), (80, 110, .st 23), (111, 111, .st 98),
     (112, 255, .st 23)],
  /- 98 -/ [(0, 9, .st 23), (10, 10, .tr 45), (11, 12, .st 23), (13, 13, .tr 46),
     (14, 82, .st 23), (83, 83, .st 99), (84, 114, .st 23), (115, 115, .st 99),
     (116, 255, .st 23)],
  /- 99 -/ [(0, 9, .st 23), (10, 10, .tr 45), (11, 12, .st 23), (13, 13, .tr 46),
     (14, 68, .st 23), (69, 69, .st 100), (70, 100, .st 23), (101, 101, .st 100),
     (102, 255, .st 23)]]

def rows2 : List Row := [
  /- 100 -/ [(0, 9, .st 23), (10, 10, .tr 136), (11, 12, .st 23), (13, 13, .tr 137),
     (14, 255, .st 23)],
  /- 101 -/ [(33, 33, .st 21), (35, 39, .st 21), (42, 43, .st 21), (45, 46, .st 21),
     (48, 57, .st 21), (58, 58, .tr 39), (65, 68, .st 21), (69, 69, .st 102), (70, 90, .st 21),
     (94, 100, .st 21), (101, 101, .st 102), (102, 122, .st 21), (124, 124, .st 21),
     (126, 126, .st 21)],
  /- 102 -/ [(33, 33, .st 21), (35, 39, .st 21), (42, 43, .st 21), (45, 46, .st 21),
     (48, 57, .st 21), (58, 58, .tr 39), (65, 77, .st 21), (78, 78, .st 103), (79, 90, .st 21),
     (94, 109, .st 21), (110, 110, .st 103), (111, 122, .st 21), (124, 124, .st 21),
     (126, 126, .st 21)],
  /- 103 -/ [(33, 33, .st 21), (35, 39, .st 21), (42, 43, .st 21), (45, 46, .st 21),
     (48, 57, .st 21), (58, 58, .tr 39), (65, 83, .st 21), (84, 84, .st 104), (85, 90, .st 21),
     (94, 115, .st 21), (116, 116, .st 104), (117, 122, .st 21), (124, 124, .st 21),
     (126, 126, .st 21)],
  /- 104 -/ [(33, 33, .st 21), (35, 39, .st 21), (42, 43, .st 21), (45, 45, .st 105),
     (46, 46, .st 21), (48, 57, .st 21), (58, 58, .tr 39), (65, 90, .st 21), (94, 122, .st 21),
     (124, 124, .st 21), (126, 126, .st 21)],
  /- 105 -/ [(33, 33, .st 21), (35, 39, .st 21), (42, 43, .st 21), (45, 46, .st 21),
     (48, 57, .st 21), (58, 58, .tr 39), (65, 75, .st 21), (76, 76, .st 106), (77, 90, .st 21),
     (94, 107, .st 21), (108, 108, .st 106), (109, 122, .st 21), (124, 124, .st 21),
     (126, 126, .st 21)],
  /- 106 -/ [(33, 33, .st 21), (35, 39, .st 21), (42, 43, .st 21), (45, 46, .st 21),
     (48, 57, .st 21), (58, 58, .tr 39), (65, 68, .st 21), (69, 69, .st 107), (70, 90, .st 21),
     (94, 100, .st 21), (101, 101, .st 107), (102, 122, .st 21), (124, 124, .st 21),
     (126, 126, .st 21)],
  /- 107 -/ [(33, 33, .st 21), (35, 39, .st 21), (42, 43, .st 21), (45, 46, .st 21),
     (48, 57, .st 21), (58, 58, .tr 39), (65, 77, .st 21), (78, 78, .st 108), (79, 90, .st 21),
     (94, 109, .st 21), (110, 110, .st 108), (111, 122, .st 21), (124, 124, .st 21),
     (126, 126, .st 21)],
  /- 108 -/ [(33, 33, .st 21), (35, 39, .st 21), (42, 43, .st 21), (45, 46, .st 21),
     (48, 57, .st 21), (58, 58, .tr 39), (65, 70, .st 21), (71, 71, .st 109), (72, 90, .st 21),
     (94, 102, .st 21), (103, 103, .st 109), (104, 122, .st 21), (124, 124, .st 21),
     (126, 126, .st 21)],
  /- 109 -/ [(33, 33, .st 21), (35, 39, .st 21), (42, 43, .st 21), (45, 46, .st 21),
     (48, 57, .st 21), (58, 58, .tr 39), (65, 83, .st 21), (84, 84, .st 110), (85, 90, .st 21),
     (94, 115, .st 21), (116, 116, .st 110), (117, 122, .st 21), (124, 124, .st 21),
     (126, 126, .st 21)],
  /- 110 -/ [(33, 33, .st 21), (35, 39, .st 21), (42, 43, .st 21), (45, 46, .st 21),
     (48, 57, .st 21), (58, 58, .tr 39), (65, 71, .st 21), (72, 72, .st 111), (73, 90, .st 21),
     (94, 103, .st 21), (104, 104, .st 111), (105, 122, .st 21), (124, 124, .st 21),
     (126, 126, .st 21)],
  /- 111 -/ [(33, 33, .st 21), (35, 39, .st 21), (42, 43, .st 21), (45, 46, .st 21),
     (48, 57, .st 21), (58, 58, .tr 148), (65, 90, .st 21), (94, 122, .st 21),
     (124, 124, .st 21), (126, 126, .st 21)],
  /- 112 -/ [(0, 8, .tr 40), (9, 9, .tr 149), (10, 10, .tr 150), (11, 12, .tr 149),
     (13, 13, .tr 151), (14, 31, .tr 40), (32, 32, .tr 149), (33, 47, .tr 40),
     (48, 57, .tr 152), (58, 255, .tr 40)],
  /- 113 -/ [(9, 9, .st 114), (10, 10, .tr 154), (11, 12, .st 114), (13, 13, .st 116),
     (32, 32, .st 114), (33, 33, .tr 35), (35, 39, .tr 35), (42, 43, .tr 35), (45, 46, .tr 35),
     (48, 57, .tr 156), (65, 66, .tr 35), (67, 67, .tr 36), (68, 83, .tr 35), (84, 84, .tr 37),
     (85, 90, .tr 35), (94, 98, .tr 35), (99, 99, .tr 36), (100, 115, .tr 35),
     (116, 116, .tr 37), (117, 122, .tr 35), (124, 124, .tr 35), (126, 126, .tr 35)],
  /- 114 -/ [(9, 13, .st 114), (32, 32, .st 114), (48, 57, .tr 157)],
  /- 115 -/ [(10, 10, .tr 158), (13, 13, .tr 159), (48, 57, .st 115)],
  /- 116 -/ [(9, 9, .st 114), (10, 10, .tr 154), (11, 13, .st 114), (32, 32, .st 114),
     (48, 57, .tr 157)],
  /- 117 -/ [(10, 10, .tr 158), (13, 13, .tr 159), (33, 33, .st 21), (35, 39, .st 21),
     (42, 43, .st 21), (45, 46, .st 21), (48, 57, .st 117), (58, 58, .tr 39), (65, 90, .st 21),
     (94, 122, .st 21), (124, 124, .st 21), (126, 126, .st 21)],
  /- 118 -/ [(9, 9, .st 114), (10, 10, .st 113), (11, 13, .st 114), (32, 32, .st 114),
     (48, 57, .tr 157)],
  /- 119 -/ [(0, 9, .st 23), (10, 10, .tr 158), (11, 12, .st 23), (13, 13, .tr 159),
     (14, 47, .st 23), (48, 57, .st 119), (58, 255, .st 23)],
  /- 120 -/ [],
  /- 121 -/ [(9, 13, .st 63), (32, 32, .st 63), (67, 67, .tr 104), (99, 99, .tr 104)],
  /- 122 -/ [(9, 13, .st 37), (32, 32, .st 37), (67, 67, .st 38), (99, 99, .st 38)],
  /- 123 -/ [(9, 13, .st 114), (32, 32, .st 114), (48, 57, .tr 157)]]

def rows : List Row := rows0 ++ rows1 ++ rows2

def lookup (s c : Nat) : Option Goto :=
  ((rows.getD s []).find? fun e => e.1 ≤ c && c ≤ e.2.1).map fun e => e.2.2

def follow : Goto → Step Nat Action
  | .st n => .next n []
  | .tr k => tr k

def step (s : Nat) (c : UInt8) : Step Nat Action :=
  match lookup s c.toNat with
  | none   => .fail httpclient_parser_error
  | some g => follow g

/-! ## Section 3: What the table shows -/

/-- The base of the number that is read in a state, from `mark` on. -/
def numberBase : Nat → Option Nat
  | 2   => some 16
  | 17  => some 10
  | 115 => some 10
  | 117 => some 10
  | 119 => some 10
  | _   => none

/-- The base of the number that a call back reads at `mark`. -/
def Callback.base : Callback → Option Nat
  | .chunk_size  => some 16
  | .status_code => some 10
  | .content_len => some 10
  | _            => none

def readsNumber : Action → Bool
  | .call k => k.base.isSome
  | _       => false

def allBytes (lo hi : Nat) (f : UInt8 → Bool) : Bool :=
  (List.range' lo (hi + 1 - lo)).all fun n => f n.toUInt8

/-- Digits lead to a state in which a number is read, and start it or go on with it. -/
def entersNumber (s t lo hi : Nat) (acts : List Action) : Bool :=
  match numberBase t with
  | none   => true
  | some b => allBytes lo hi (Strtol.isdigit b) && (s == t && acts == [] || acts.contains mark)

/-- A number is read first of all, at the byte behind its last digit. -/
def leavesNumber (s lo hi : Nat) (acts : List Action) : Bool :=
  acts.tail.all (fun a => !readsNumber a) &&
    match acts.head? with
    | some (.call k) =>
      match k.base with
      | none   => true
      | some b => numberBase s == some b &&
          allBytes lo hi fun c => !Strtol.isdigit b c && c != 120 && c != 88
    | _ => true

/-- A transition goes on to a state that is neither the error state nor final,
    or ends in a final one, and numbers are read where they end. -/
def sound (s : Nat) (e : Nat × Nat × Goto) : Bool :=
  match follow e.2.2 with
  | .next t acts =>
    0 < t && t < httpclient_parser_first_final && entersNumber s t e.1 e.2.1 acts &&
      leavesNumber s e.1 e.2.1 acts
  | .last t acts => httpclient_parser_first_final ≤ t && leavesNumber s e.1 e.2.1 acts
  | .fail _ => false

theorem rows_sound : ∀ row ∈ rows.zipIdx, ∀ e ∈ row.1, sound row.2 e = true := by
  decide +kernel

theorem lookup_mem {s c : Nat} {g : Goto} (h : lookup s c = some g) :
    ∃ lo hi, lo ≤ c ∧ c ≤ hi ∧ (lo, hi, g) ∈ rows.getD s [] := by
  obtain ⟨e, he, rfl⟩ := Option.map_eq_some_iff.mp h
  have hrange := List.find?_some he
  rw [Bool.and_eq_true, decide_eq_true_iff, decide_eq_true_iff] at hrange
  exact ⟨e.1, e.2.1, hrange.1, hrange.2, List.mem_of_find?_eq_some he⟩

theorem lookup_sound {s c : Nat} {g : Goto} (h : lookup s c = some g) :
    ∃ lo hi, lo ≤ c ∧ c ≤ hi ∧ sound s (lo, hi, g) = true := by
  obtain ⟨lo, hi, hlo, hhi, hmem⟩ := lookup_mem h
  refine ⟨lo, hi, hlo, hhi, ?_⟩
  by_cases hs : s < rows.length
  · rw [List.getD_eq_getElem _ _ hs] at hmem
    have hrow := List.mk_mem_zipIdx_iff_getElem?.mpr (List.getElem?_eq_getElem hs)
    exact rows_sound (rows[s], s) hrow _ hmem
  · rw [List.getD_eq_default _ _ (Nat.not_lt.mp hs)] at hmem
    cases hmem

theorem allBytes_byte {lo hi : Nat} {f : UInt8 → Bool} (h : allBytes lo hi f = true) {c : UInt8}
    (hlo : lo ≤ c.toNat) (hhi : c.toNat ≤ hi) : f c = true := by
  have hc := List.all_eq_true.mp h c.toNat (List.mem_range'_1.mpr ⟨hlo, by omega⟩)
  rwa [show c.toNat.toUInt8 = c from UInt8.ofNat_toNat] at hc

/-- What a step can do. -/
theorem step_cases (s : Nat) (c : UInt8) :
    (∃ t acts, step s c = .next t acts ∧ 0 < t ∧ t < httpclient_parser_first_final) ∨
    (∃ t acts, step s c = .last t acts ∧ httpclient_parser_first_final ≤ t) ∨
    step s c = .fail httpclient_parser_error := by
  unfold step
  cases hlookup : lookup s c.toNat with
  | none => exact .inr (.inr rfl)
  | some g =>
    obtain ⟨lo, hi, -, -, hsound⟩ := lookup_sound hlookup
    simp only [sound] at hsound
    cases hg : follow g with
    | next t acts =>
      simp only [hg, Bool.and_eq_true, decide_eq_true_eq] at hsound
      exact .inl ⟨t, acts, hg, hsound.1.1.1, hsound.1.1.2⟩
    | last t acts =>
      simp only [hg, Bool.and_eq_true, decide_eq_true_eq] at hsound
      exact .inr (.inl ⟨t, acts, hg, hsound.1⟩)
    | fail t =>
      rw [hg] at hsound
      cases hsound

/-- A step into a state in which a number is read. -/
theorem step_enters {s t b : Nat} {c : UInt8} {acts : List Action}
    (hstep : step s c = .next t acts) (hbase : numberBase t = some b) :
    Strtol.isdigit b c = true ∧ (s = t ∧ acts = [] ∨ mark ∈ acts) := by
  unfold step at hstep
  cases hlookup : lookup s c.toNat with
  | none =>
    rw [hlookup] at hstep
    cases hstep
  | some g =>
    obtain ⟨lo, hi, hlo, hhi, hsound⟩ := lookup_sound hlookup
    rw [hlookup] at hstep
    dsimp only at hstep
    simp only [sound, hstep, entersNumber, hbase, Bool.and_eq_true, Bool.or_eq_true, beq_iff_eq,
      List.contains_eq_mem, decide_eq_true_eq] at hsound
    exact ⟨allBytes_byte hsound.1.2.1 hlo hhi, hsound.1.2.2⟩

/-- A step that reads a number. -/
theorem step_leaves {s b : Nat} {c : UInt8} {before after : List Action} {k : Callback}
    (hacts : (step s c).acts = before ++ .call k :: after) (hbase : k.base = some b) :
    before = [] ∧ numberBase s = some b ∧ Strtol.isdigit b c = false ∧ c ≠ 120 ∧ c ≠ 88 := by
  unfold step at hacts
  cases hlookup : lookup s c.toNat with
  | none =>
    rw [hlookup] at hacts
    simp [Step.acts] at hacts
  | some g =>
    obtain ⟨lo, hi, hlo, hhi, hsound⟩ := lookup_sound hlookup
    rw [hlookup] at hacts
    dsimp only at hacts
    have hleaves : leavesNumber s lo hi (follow g).acts = true := by
      simp only [sound] at hsound
      cases hg : follow g with
      | next t acts =>
        simp only [hg, Bool.and_eq_true] at hsound
        exact hsound.2
      | last t acts =>
        simp only [hg, Bool.and_eq_true] at hsound
        exact hsound.2
      | fail t =>
        rw [hg] at hsound
        cases hsound
    rw [hacts] at hleaves
    simp only [leavesNumber, Bool.and_eq_true, List.all_eq_true] at hleaves
    cases before with
    | nil =>
      obtain ⟨-, hhead⟩ := hleaves
      simp only [List.nil_append, List.head?_cons, hbase, Bool.and_eq_true, beq_iff_eq] at hhead
      have hc := allBytes_byte hhead.2 hlo hhi
      simp only [Bool.and_eq_true, Bool.not_eq_true', bne_iff_ne] at hc
      exact ⟨rfl, hhead.1, hc.1.1, hc.1.2, hc.2⟩
    | cons a before =>
      -- a number is never read behind another action
      have htail := hleaves.1 (.call k) (by simp)
      simp [readsNumber, hbase] at htail

end HttpClientParser

end Http

end MNSER
