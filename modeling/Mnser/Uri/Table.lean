import Mathlib.Logic.Function.Basic
import Mnser.Framework.Ranges
import Mnser.Framework.Scanner

/-! # The URI scanner

    The state machine generated from `uri.rl`.  A row lists, for a state, the
    ranges of bytes and where `switch( (*p) )` goes for them; a byte in none of
    them leads to `st0`.  Where a text ends, the state it ends in has further
    actions. -/

namespace MNSER

namespace UriParser

open Ranges Scanner

/-! ## Section 1: Actions -/

inductive Action where
  | marku
  | markh
  | save_scheme
  | save_port
  | save_userinfo
  | save_host
  | save_path
  | save_query
  | save_fragment
  deriving DecidableEq

open UriParser.Action

/-! ## Section 2: Transitions -/

def uri_parser_start : Nat := 451
def uri_parser_first_final : Nat := 451
def uri_parser_error : Nat := 0

/-- `goto st..` or `goto tr..` -/
inductive Goto where
  | st (n : Nat)
  | tr (k : Nat)
  deriving DecidableEq

def tr : Nat → Step Nat Action
  | 38 => .next 469 [save_userinfo]
  | 263 => .next 522 [save_userinfo]
  | 461 => .next 508 [marku]
  | 462 => .next 454 [marku]
  | 463 => .next 1 [marku]
  | 466 => .next 457 [marku]
  | 467 => .next 453 [marku, save_query]
  | 468 => .next 7 [marku]
  | 469 => .next 453 [save_query]
  | 472 => .next 9 [markh]
  | 473 => .next 467 [markh]
  | 474 => .next 453 [markh, save_host]
  | 475 => .next 31 [markh]
  | 476 => .next 455 [markh, save_host]
  | 477 => .next 490 [markh]
  | 478 => .next 504 [markh]
  | 479 => .next 506 [markh]
  | 480 => .next 505 [markh]
  | 481 => .next 468 [markh, save_host]
  | 482 => .next 456 [markh, save_host]
  | 483 => .next 469 [markh, save_userinfo]
  | 484 => .next 38 [markh]
  | 485 => .next 453 [save_host]
  | 486 => .next 455 [save_host]
  | 487 => .next 461 [save_host]
  | 488 => .next 456 [save_host]
  | 489 => .next 453 [markh, save_port]
  | 490 => .next 455 [markh, save_port]
  | 491 => .next 462 [markh]
  | 492 => .next 456 [markh, save_port]
  | 493 => .next 453 [save_port]
  | 494 => .next 455 [save_port]
  | 496 => .next 456 [save_port]
  | 499 => .next 468 [save_host]
  | 500 => .next 489 [markh]
  | 501 => .next 470 [markh]
  | 502 => .next 36 [markh]
  | 503 => .next 471 [markh]
  | 504 => .next 485 [markh]
  | 505 => .next 487 [markh]
  | 506 => .next 486 [markh]
  | 507 => .next 461 [markh, save_host]
  | 543 => .next 509 [save_scheme]
  | 546 => .next 229 [markh]
  | 547 => .next 520 [markh]
  | 548 => .next 453 [markh, save_host, save_path]
  | 549 => .next 253 [markh]
  | 550 => .next 513 [markh, save_host]
  | 551 => .next 543 [markh]
  | 552 => .next 557 [markh]
  | 553 => .next 559 [markh]
  | 554 => .next 558 [markh]
  | 555 => .next 521 [markh, save_host]
  | 556 => .next 456 [markh, save_host, save_path]
  | 557 => .next 522 [markh, save_userinfo]
  | 558 => .next 260 [markh]
  | 559 => .next 453 [save_host, markh, save_path]
  | 560 => .next 513 [save_host, markh]
  | 561 => .next 514 [save_host]
  | 562 => .next 456 [save_host, markh, save_path]
  | 563 => .next 453 [save_path]
  | 565 => .next 456 [save_path]
  | 566 => .next 453 [markh, save_port, save_path]
  | 567 => .next 513 [markh, save_port]
  | 568 => .next 515 [markh]
  | 569 => .next 456 [markh, save_port, save_path]
  | 570 => .next 453 [save_port, markh, save_path]
  | 571 => .next 513 [save_port, markh]
  | 573 => .next 456 [save_port, markh, save_path]
  | 576 => .next 521 [save_host]
  | 577 => .next 542 [markh]
  | 578 => .next 523 [markh]
  | 579 => .next 258 [markh]
  | 580 => .next 524 [markh]
  | 581 => .next 538 [markh]
  | 582 => .next 540 [markh]
  | 583 => .next 539 [markh]
  | 584 => .next 514 [markh, save_host]
  | _ => .fail 0

def rows0 : List (Row Goto) := [
  /- 0 -/ [],
  /- 1 -/ [(48, 57, .st 2), (65, 70, .st 2), (97, 102, .st 2)],
  /- 2 -/ [(48, 57, .st 454), (65, 70, .st 454), (97, 102, .st 454)],
  /- 3 -/ [(48, 57, .st 4), (65, 70, .st 4), (97, 102, .st 4)],
  /- 4 -/ [(48, 57, .st 452), (65, 70, .st 452), (97, 102, .st 452)],
  /- 5 -/ [(48, 57, .st 6), (65, 70, .st 6), (97, 102, .st 6)],
  /- 6 -/ [(48, 57, .st 455), (65, 70, .st 455), (97, 102, .st 455)],
  /- 7 -/ [(48, 57, .st 8), (65, 70, .st 8), (97, 102, .st 8)],
  /- 8 -/ [(48, 57, .st 457), (65, 70, .st 457), (97, 102, .st 457)],
  /- 9 -/ [(48, 52, .st 10)],
  /- 10 -/ [(48, 57, .st 11)],
  /- 11 -/ [(46, 46, .st 12)],
  /- 12 -/ [(2, 2, .st 13), (48, 48, .st 15), (49, 49, .st 27), (50, 50, .st 29),
     (51, 57, .st 28)],
  /- 13 -/ [(48, 52, .st 14)],
  /- 14 -/ [(48, 57, .st 15)],
  /- 15 -/ [(46, 46, .st 16)],
  /- 16 -/ [(2, 2, .st 17), (48, 48, .st 19), (49, 49, .st 23), (50, 50, .st 25),
     (51, 57, .st 24)],
  /- 17 -/ [(48, 52, .st 18)],
  /- 18 -/ [(48, 57, .st 19)],
  /- 19 -/ [(46, 46, .st 20)],
  /- 20 -/ [(2, 2, .st 21), (48, 48, .st 460), (49, 49, .st 463), (50, 50, .st 465),
     (51, 57, .st 464)],
  /- 21 -/ [(48, 52, .st 22)],
  /- 22 -/ [(48, 57, .st 460)],
  /- 23 -/ [(46, 46, .st 20), (48, 57, .st 24)],
  /- 24 -/ [(46, 46, .st 20), (48, 57, .st 19)],
  /- 25 -/ [(46, 46, .st 20), (48, 52, .st 19), (53, 53, .st 26), (54, 57, .st 19)],
  /- 26 -/ [(46, 46, .st 20), (48, 53, .st 19)],
  /- 27 -/ [(46, 46, .st 16), (48, 57, .st 28)],
  /- 28 -/ [(46, 46, .st 16), (48, 57, .st 15)],
  /- 29 -/ [(46, 46, .st 16), (48, 52, .st 15), (53, 53, .st 30), (54, 57, .st 15)],
  /- 30 -/ [(46, 46, .st 16), (48, 53, .st 15)],
  /- 31 -/ [(48, 57, .st 32), (65, 70, .st 32), (97, 102, .st 32)],
  /- 32 -/ [(48, 57, .st 467), (65, 70, .st 467), (97, 102, .st 467)],
  /- 33 -/ [(33, 33, .st 33), (36, 36, .st 33), (37, 37, .st 34), (38, 46, .st 33),
     (48, 59, .st 33), (61, 61, .st 33), (64, 64, .tr 38), (65, 90, .st 33), (95, 95, .st 33),
     (97, 122, .st 33), (126, 126, .st 33)],
  /- 34 -/ [(48, 57, .st 35), (65, 70, .st 35), (97, 102, .st 35)],
  /- 35 -/ [(48, 57, .st 33), (65, 70, .st 33), (97, 102, .st 33)],
  /- 36 -/ [(48, 57, .st 37), (65, 70, .st 37), (97, 102, .st 37)],
  /- 37 -/ [(48, 57, .st 470), (65, 70, .st 470), (97, 102, .st 470)],
  /- 38 -/ [(48, 57, .st 39), (58, 58, .st 146), (65, 70, .st 39), (97, 102, .st 39),
     (118, 118, .st 225)],
  /- 39 -/ [(48, 57, .st 40), (58, 58, .st 43), (65, 70, .st 40), (97, 102, .st 40)],
  /- 40 -/ [(48, 57, .st 41), (58, 58, .st 43), (65, 70, .st 41), (97, 102, .st 41)],
  /- 41 -/ [(48, 57, .st 42), (58, 58, .st 43), (65, 70, .st 42), (97, 102, .st 42)],
  /- 42 -/ [(58, 58, .st 43)],
  /- 43 -/ [(48, 57, .st 44), (58, 58, .st 141), (65, 70, .st 44), (97, 102, .st 44)],
  /- 44 -/ [(48, 57, .st 45), (58, 58, .st 48), (65, 70, .st 45), (97, 102, .st 45)],
  /- 45 -/ [(48, 57, .st 46), (58, 58, .st 48), (65, 70, .st 46), (97, 102, .st 46)],
  /- 46 -/ [(48, 57, .st 47), (58, 58, .st 48), (65, 70, .st 47), (97, 102, .st 47)],
  /- 47 -/ [(58, 58, .st 48)],
  /- 48 -/ [(48, 57, .st 49), (58, 58, .st 136), (65, 70, .st 49), (97, 102, .st 49)],
  /- 49 -/ [(48, 57, .st 50), (58, 58, .st 53), (65, 70, .st 50), (97, 102, .st 50)],
  /- 50 -/ [(48, 57, .st 51), (58, 58, .st 53), (65, 70, .st 51), (97, 102, .st 51)],
  /- 51 -/ [(48, 57, .st 52), (58, 58, .st 53), (65, 70, .st 52), (97, 102, .st 52)],
  /- 52 -/ [(58, 58, .st 53)],
  /- 53 -/ [(48, 57, .st 54), (58, 58, .st 131), (65, 70, .st 54), (97, 102, .st 54)],
  /- 54 -/ [(48, 57, .st 55), (58, 58, .st 58), (65, 70, .st 55), (97, 102, .st 55)],
  /- 55 -/ [(48, 57, .st 56), (58, 58, .st 58), (65, 70, .st 56), (97, 102, .st 56)],
  /- 56 -/ [(48, 57, .st 57), (58, 58, .st 58), (65, 70, .st 57), (97, 102, .st 57)],
  /- 57 -/ [(58, 58, .st 58)],
  /- 58 -/ [(48, 57, .st 59), (58, 58, .st 126), (65, 70, .st 59), (97, 102, .st 59)],
  /- 59 -/ [(48, 57, .st 60), (58, 58, .st 63), (65, 70, .st 60), (97, 102, .st 60)],
  /- 60 -/ [(48, 57, .st 61), (58, 58, .st 63), (65, 70, .st 61), (97, 102, .st 61)],
  /- 61 -/ [(48, 57, .st 62), (58, 58, .st 63), (65, 70, .st 62), (97, 102, .st 62)],
  /- 62 -/ [(58, 58, .st 63)],
  /- 63 -/ [(48, 57, .st 64), (58, 58, .st 113), (65, 70, .st 64), (97, 102, .st 64)],
  /- 64 -/ [(48, 57, .st 65), (58, 58, .st 68), (65, 70, .st 65), (97, 102, .st 65)],
  /- 65 -/ [(48, 57, .st 66), (58, 58, .st 68), (65, 70, .st 66), (97, 102, .st 66)],
  /- 66 -/ [(48, 57, .st 67), (58, 58, .st 68), (65, 70, .st 67), (97, 102, .st 67)],
  /- 67 -/ [(58, 58, .st 68)],
  /- 68 -/ [(2, 2, .st 69), (48, 48, .st 96), (49, 49, .st 104), (50, 50, .st 107),
     (51, 57, .st 110), (58, 58, .st 111), (65, 70, .st 112), (97, 102, .st 112)],
  /- 69 -/ [(48, 52, .st 70)],
  /- 70 -/ [(48, 57, .st 71)],
  /- 71 -/ [(46, 46, .st 72)],
  /- 72 -/ [(2, 2, .st 73), (48, 48, .st 75), (49, 49, .st 92), (50, 50, .st 94),
     (51, 57, .st 93)],
  /- 73 -/ [(48, 52, .st 74)],
  /- 74 -/ [(48, 57, .st 75)],
  /- 75 -/ [(46, 46, .st 76)],
  /- 76 -/ [(2, 2, .st 77), (48, 48, .st 79), (49, 49, .st 88), (50, 50, .st 90),
     (51, 57, .st 89)],
  /- 77 -/ [(48, 52, .st 78)],
  /- 78 -/ [(48, 57, .st 79)],
  /- 79 -/ [(46, 46, .st 80)]]

def rows1 : List (Row Goto) := [
  /- 80 -/ [(2, 2, .st 81), (48, 48, .st 83), (49, 49, .st 84), (50, 50, .st 86),
     (51, 57, .st 85)],
  /- 81 -/ [(48, 52, .st 82)],
  /- 82 -/ [(48, 57, .st 83)],
  /- 83 -/ [(93, 93, .st 460)],
  /- 84 -/ [(48, 57, .st 85), (93, 93, .st 460)],
  /- 85 -/ [(48, 57, .st 83), (93, 93, .st 460)],
  /- 86 -/ [(48, 52, .st 83), (53, 53, .st 87), (54, 57, .st 83), (93, 93, .st 460)],
  /- 87 -/ [(48, 53, .st 83), (93, 93, .st 460)],
  /- 88 -/ [(46, 46, .st 80), (48, 57, .st 89)],
  /- 89 -/ [(46, 46, .st 80), (48, 57, .st 79)],
  /- 90 -/ [(46, 46, .st 80), (48, 52, .st 79), (53, 53, .st 91), (54, 57, .st 79)],
  /- 91 -/ [(46, 46, .st 80), (48, 53, .st 79)],
  /- 92 -/ [(46, 46, .st 76), (48, 57, .st 93)],
  /- 93 -/ [(46, 46, .st 76), (48, 57, .st 75)],
  /- 94 -/ [(46, 46, .st 76), (48, 52, .st 75), (53, 53, .st 95), (54, 57, .st 75)],
  /- 95 -/ [(46, 46, .st 76), (48, 53, .st 75)],
  /- 96 -/ [(46, 46, .st 72), (48, 57, .st 97), (58, 58, .st 100), (65, 70, .st 97),
     (97, 102, .st 97)],
  /- 97 -/ [(48, 57, .st 98), (58, 58, .st 100), (65, 70, .st 98), (97, 102, .st 98)],
  /- 98 -/ [(48, 57, .st 99), (58, 58, .st 100), (65, 70, .st 99), (97, 102, .st 99)],
  /- 99 -/ [(58, 58, .st 100)],
  /- 100 -/ [(48, 57, .st 101), (58, 58, .st 83), (65, 70, .st 101), (97, 102, .st 101)],
  /- 101 -/ [(48, 57, .st 102), (65, 70, .st 102), (93, 93, .st 460), (97, 102, .st 102)],
  /- 102 -/ [(48, 57, .st 103), (65, 70, .st 103), (93, 93, .st 460), (97, 102, .st 103)],
  /- 103 -/ [(48, 57, .st 83), (65, 70, .st 83), (93, 93, .st 460), (97, 102, .st 83)],
  /- 104 -/ [(46, 46, .st 72), (48, 57, .st 105), (58, 58, .st 100), (65, 70, .st 97),
     (97, 102, .st 97)],
  /- 105 -/ [(46, 46, .st 72), (48, 57, .st 106), (58, 58, .st 100), (65, 70, .st 98),
     (97, 102, .st 98)],
  /- 106 -/ [(46, 46, .st 72), (48, 57, .st 99), (58, 58, .st 100), (65, 70, .st 99),
     (97, 102, .st 99)],
  /- 107 -/ [(46, 46, .st 72), (48, 52, .st 108), (53, 53, .st 109), (54, 57, .st 108),
     (58, 58, .st 100), (65, 70, .st 97), (97, 102, .st 97)],
  /- 108 -/ [(46, 46, .st 72), (48, 57, .st 98), (58, 58, .st 100), (65, 70, .st 98),
     (97, 102, .st 98)],
  /- 109 -/ [(46, 46, .st 72), (48, 53, .st 106), (54, 57, .st 98), (58, 58, .st 100),
     (65, 70, .st 98), (97, 102, .st 98)],
  /- 110 -/ [(46, 46, .st 72), (48, 57, .st 108), (58, 58, .st 100), (65, 70, .st 97),
     (97, 102, .st 97)],
  /- 111 -/ [(48, 57, .st 101), (65, 70, .st 101), (97, 102, .st 101)],
  /- 112 -/ [(48, 57, .st 97), (58, 58, .st 100), (65, 70, .st 97), (97, 102, .st 97)],
  /- 113 -/ [(2, 2, .st 69), (48, 48, .st 114), (49, 49, .st 118), (50, 50, .st 121),
     (51, 57, .st 124), (65, 70, .st 125), (97, 102, .st 125)],
  /- 114 -/ [(46, 46, .st 72), (48, 57, .st 115), (58, 58, .st 111), (65, 70, .st 115),
     (97, 102, .st 115)],
  /- 115 -/ [(48, 57, .st 116), (58, 58, .st 111), (65, 70, .st 116), (97, 102, .st 116)],
  /- 116 -/ [(48, 57, .st 117), (58, 58, .st 111), (65, 70, .st 117), (97, 102, .st 117)],
  /- 117 -/ [(58, 58, .st 111)],
  /- 118 -/ [(46, 46, .st 72), (48, 57, .st 119), (58, 58, .st 111), (65, 70, .st 115),
     (97, 102, .st 115)],
  /- 119 -/ [(46, 46, .st 72), (48, 57, .st 120), (58, 58, .st 111), (65, 70, .st 116),
     (97, 102, .st 116)],
  /- 120 -/ [(46, 46, .st 72), (48, 57, .st 117), (58, 58, .st 111), (65, 70, .st 117),
     (97, 102, .st 117)],
  /- 121 -/ [(46, 46, .st 72), (48, 52, .st 122), (53, 53, .st 123), (54, 57, .st 122),
     (58, 58, .st 111), (65, 70, .st 115), (97, 102, .st 115)],
  /- 122 -/ [(46, 46, .st 72), (48, 57, .st 116), (58, 58, .st 111), (65, 70, .st 116),
     (97, 102, .st 116)],
  /- 123 -/ [(46, 46, .st 72), (48, 53, .st 120), (54, 57, .st 116), (58, 58, .st 111),
     (65, 70, .st 116), (97, 102, .st 116)],
  /- 124 -/ [(46, 46, .st 72), (48, 57, .st 122), (58, 58, .st 111), (65, 70, .st 115),
     (97, 102, .st 115)],
  /- 125 -/ [(48, 57, .st 115), (58, 58, .st 111), (65, 70, .st 115), (97, 102, .st 115)],
  /- 126 -/ [(48, 57, .st 127), (65, 70, .st 127), (97, 102, .st 127)],
  /- 127 -/ [(48, 57, .st 128), (58, 58, .st 113), (65, 70, .st 128), (97, 102, .st 128)],
  /- 128 -/ [(48, 57, .st 129), (58, 58, .st 113), (65, 70, .st 129), (97, 102, .st 129)],
  /- 129 -/ [(48, 57, .st 130), (58, 58, .st 113), (65, 70, .st 130), (97, 102, .st 130)],
  /- 130 -/ [(58, 58, .st 113)],
  /- 131 -/ [(48, 57, .st 132), (65, 70, .st 132), (97, 102, .st 132)],
  /- 132 -/ [(48, 57, .st 133), (58, 58, .st 126), (65, 70, .st 133), (97, 102, .st 133)],
  /- 133 -/ [(48, 57, .st 134), (58, 58, .st 126), (65, 70, .st 134), (97, 102, .st 134)],
  /- 134 -/ [(48, 57, .st 135), (58, 58, .st 126), (65, 70, .st 135), (97, 102, .st 135)],
  /- 135 -/ [(58, 58, .st 126)],
  /- 136 -/ [(48, 57, .st 137), (65, 70, .st 137), (97, 102, .st 137)],
  /- 137 -/ [(48, 57, .st 138), (58, 58, .st 131), (65, 70, .st 138), (97, 102, .st 138)],
  /- 138 -/ [(48, 57, .st 139), (58, 58, .st 131), (65, 70, .st 139), (97, 102, .st 139)],
  /- 139 -/ [(48, 57, .st 140), (58, 58, .st 131), (65, 70, .st 140), (97, 102, .st 140)],
  /- 140 -/ [(58, 58, .st 131)],
  /- 141 -/ [(48, 57, .st 142), (65, 70, .st 142), (97, 102, .st 142)],
  /- 142 -/ [(48, 57, .st 143), (58, 58, .st 136), (65, 70, .st 143), (97, 102, .st 143)],
  /- 143 -/ [(48, 57, .st 144), (58, 58, .st 136), (65, 70, .st 144), (97, 102, .st 144)],
  /- 144 -/ [(48, 57, .st 145), (58, 58, .st 136), (65, 70, .st 145), (97, 102, .st 145)],
  /- 145 -/ [(58, 58, .st 136)],
  /- 146 -/ [(58, 58, .st 147)],
  /- 147 -/ [(2, 2, .st 69), (48, 48, .st 148), (49, 49, .st 217), (50, 50, .st 220),
     (51, 57, .st 223), (65, 70, .st 224), (93, 93, .st 460), (97, 102, .st 224)],
  /- 148 -/ [(46, 46, .st 72), (48, 57, .st 149), (58, 58, .st 152), (65, 70, .st 149),
     (93, 93, .st 460), (97, 102, .st 149)],
  /- 149 -/ [(48, 57, .st 150), (58, 58, .st 152), (65, 70, .st 150), (93, 93, .st 460),
     (97, 102, .st 150)],
  /- 150 -/ [(48, 57, .st 151), (58, 58, .st 152), (65, 70, .st 151), (93, 93, .st 460),
     (97, 102, .st 151)],
  /- 151 -/ [(58, 58, .st 152), (93, 93, .st 460)],
  /- 152 -/ [(2, 2, .st 69), (48, 48, .st 153), (49, 49, .st 209), (50, 50, .st 212),
     (51, 57, .st 215), (65, 70, .st 216), (97, 102, .st 216)],
  /- 153 -/ [(46, 46, .st 72), (48, 57, .st 154), (58, 58, .st 157), (65, 70, .st 154),
     (93, 93, .st 460), (97, 102, .st 154)],
  /- 154 -/ [(48, 57, .st 155), (58, 58, .st 157), (65, 70, .st 155), (93, 93, .st 460),
     (97, 102, .st 155)],
  /- 155 -/ [(48, 57, .st 156), (58, 58, .st 157), (65, 70, .st 156), (93, 93, .st 460),
     (97, 102, .st 156)],
  /- 156 -/ [(58, 58, .st 157), (93, 93, .st 460)],
  /- 157 -/ [(2, 2, .st 69), (48, 48, .st 158), (49, 49, .st 201), (50, 50, .st 204),
     (51, 57, .st 207), (65, 70, .st 208), (97, 102, .st 208)],
  /- 158 -/ [(46, 46, .st 72), (48, 57, .st 159), (58, 58, .st 162), (65, 70, .st 159),
     (93, 93, .st 460), (97, 102, .st 159)],
  /- 159 -/ [(48, 57, .st 160), (58, 58, .st 162), (65, 70, .st 160), (93, 93, .st 460),
     (97, 102, .st 160)]]

def rows2 : List (Row Goto) := [
  /- 160 -/ [(48, 57, .st 161), (58, 58, .st 162), (65, 70, .st 161), (93, 93, .st 460),
     (97, 102, .st 161)],
  /- 161 -/ [(58, 58, .st 162), (93, 93, .st 460)],
  /- 162 -/ [(2, 2, .st 69), (48, 48, .st 163), (49, 49, .st 193), (50, 50, .st 196),
     (51, 57, .st 199), (65, 70, .st 200), (97, 102, .st 200)],
  /- 163 -/ [(46, 46, .st 72), (48, 57, .st 164), (58, 58, .st 167), (65, 70, .st 164),
     (93, 93, .st 460), (97, 102, .st 164)],
  /- 164 -/ [(48, 57, .st 165), (58, 58, .st 167), (65, 70, .st 165), (93, 93, .st 460),
     (97, 102, .st 165)],
  /- 165 -/ [(48, 57, .st 166), (58, 58, .st 167), (65, 70, .st 166), (93, 93, .st 460),
     (97, 102, .st 166)],
  /- 166 -/ [(58, 58, .st 167), (93, 93, .st 460)],
  /- 167 -/ [(2, 2, .st 69), (48, 48, .st 168), (49, 49, .st 185), (50, 50, .st 188),
     (51, 57, .st 191), (65, 70, .st 192), (97, 102, .st 192)],
  /- 168 -/ [(46, 46, .st 72), (48, 57, .st 169), (58, 58, .st 172), (65, 70, .st 169),
     (93, 93, .st 460), (97, 102, .st 169)],
  /- 169 -/ [(48, 57, .st 170), (58, 58, .st 172), (65, 70, .st 170), (93, 93, .st 460),
     (97, 102, .st 170)],
  /- 170 -/ [(48, 57, .st 171), (58, 58, .st 172), (65, 70, .st 171), (93, 93, .st 460),
     (97, 102, .st 171)],
  /- 171 -/ [(58, 58, .st 172), (93, 93, .st 460)],
  /- 172 -/ [(2, 2, .st 69), (48, 48, .st 173), (49, 49, .st 177), (50, 50, .st 180),
     (51, 57, .st 183), (65, 70, .st 184), (97, 102, .st 184)],
  /- 173 -/ [(46, 46, .st 72), (48, 57, .st 174), (58, 58, .st 111), (65, 70, .st 174),
     (93, 93, .st 460), (97, 102, .st 174)],
  /- 174 -/ [(48, 57, .st 175), (58, 58, .st 111), (65, 70, .st 175), (93, 93, .st 460),
     (97, 102, .st 175)],
  /- 175 -/ [(48, 57, .st 176), (58, 58, .st 111), (65, 70, .st 176), (93, 93, .st 460),
     (97, 102, .st 176)],
  /- 176 -/ [(58, 58, .st 111), (93, 93, .st 460)],
  /- 177 -/ [(46, 46, .st 72), (48, 57, .st 178), (58, 58, .st 111), (65, 70, .st 174),
     (93, 93, .st 460), (97, 102, .st 174)],
  /- 178 -/ [(46, 46, .st 72), (48, 57, .st 179), (58, 58, .st 111), (65, 70, .st 175),
     (93, 93, .st 460), (97, 102, .st 175)],
  /- 179 -/ [(46, 46, .st 72), (48, 57, .st 176), (58, 58, .st 111), (65, 70, .st 176),
     (93, 93, .st 460), (97, 102, .st 176)],
  /- 180 -/ [(46, 46, .st 72), (48, 52, .st 181), (53, 53, .st 182), (54, 57, .st 181),
     (58, 58, .st 111), (65, 70, .st 174), (93, 93, .st 460), (97, 102, .st 174)],
  /- 181 -/ [(46, 46, .st 72), (48, 57, .st 175), (58, 58, .st 111), (65, 70, .st 175),
     (93, 93, .st 460), (97, 102, .st 175)],
  /- 182 -/ [(46, 46, .st 72), (48, 53, .st 179), (54, 57, .st 175), (58, 58, .st 111),
     (65, 70, .st 175), (93, 93, .st 460), (97, 102, .st 175)],
  /- 183 -/ [(46, 46, .st 72), (48, 57, .st 181), (58, 58, .st 111), (65, 70, .st 174),
     (93, 93, .st 460), (97, 102, .st 174)],
  /- 184 -/ [(48, 57, .st 174), (58, 58, .st 111), (65, 70, .st 174), (93, 93, .st 460),
     (97, 102, .st 174)],
  /- 185 -/ [(46, 46, .st 72), (48, 57, .st 186), (58, 58, .st 172), (65, 70, .st 169),
     (93, 93, .st 460), (97, 102, .st 169)],
  /- 186 -/ [(46, 46, .st 72), (48, 57, .st 187), (58, 58, .st 172), (65, 70, .st 170),
     (93, 93, .st 460), (97, 102, .st 170)],
  /- 187 -/ [(46, 46, .st 72), (48, 57, .st 171), (58, 58, .st 172), (65, 70, .st 171),
     (93, 93, .st 460), (97, 102, .st 171)],
  /- 188 -/ [(46, 46, .st 72), (48, 52, .st 189), (53, 53, .st 190), (54, 57, .st 189),
     (58, 58, .st 172), (65, 70, .st 169), (93, 93, .st 460), (97, 102, .st 169)],
  /- 189 -/ [(46, 46, .st 72), (48, 57, .st 170), (58, 58, .st 172), (65, 70, .st 170),
     (93, 93, .st 460), (97, 102, .st 170)],
  /- 190 -/ [(46, 46, .st 72), (48, 53, .st 187), (54, 57, .st 170), (58, 58, .st 172),
     (65, 70, .st 170), (93, 93, .st 460), (97, 102, .st 170)],
  /- 191 -/ [(46, 46, .st 72), (48, 57, .st 189), (58, 58, .st 172), (65, 70, .st 169),
     (93, 93, .st 460), (97, 102, .st 169)],
  /- 192 -/ [(48, 57, .st 169), (58, 58, .st 172), (65, 70, .st 169), (93, 93, .st 460),
     (97, 102, .st 169)],
  /- 193 -/ [(46, 46, .st 72), (48, 57, .st 194), (58, 58, .st 167), (65, 70, .st 164),
     (93, 93, .st 460), (97, 102, .st 164)],
  /- 194 -/ [(46, 46, .st 72), (48, 57, .st 195), (58, 58, .st 167), (65, 70, .st 165),
     (93, 93, .st 460), (97, 102, .st 165)],
  /- 195 -/ [(46, 46, .st 72), (48, 57, .st 166), (58, 58, .st 167), (65, 70, .st 166),
     (93, 93, .st 460), (97, 102, .st 166)],
  /- 196 -/ [(46, 46, .st 72), (48, 52, .st 197), (53, 53, .st 198), (54, 57, .st 197),
     (58, 58, .st 167), (65, 70, .st 164), (93, 93, .st 460), (97, 102, .st 164)],
  /- 197 -/ [(46, 46, .st 72), (48, 57, .st 165), (58, 58, .st 167), (65, 70, .st 165),
     (93, 93, .st 460), (97, 102, .st 165)],
  /- 198 -/ [(46, 46, .st 72), (48, 53, .st 195), (54, 57, .st 165), (58, 58, .st 167),
     (65, 70, .st 165), (93, 93, .st 460), (97, 102, .st 165)],
  /- 199 -/ [(46, 46, .st 72), (48, 57, .st 197), (58, 58, .st 167), (65, 70, .st 164),
     (93, 93, .st 460), (97, 102, .st 164)],
  /- 200 -/ [(48, 57, .st 164), (58, 58, .st 167), (65, 70, .st 164), (93, 93, .st 460),
     (97, 102, .st 164)],
  /- 201 -/ [(46, 46, .st 72), (48, 57, .st 202), (58, 58, .st 162), (65, 70, .st 159),
     (93, 93, .st 460), (97, 102, .st 159)],
  /- 202 -/ [(46, 46, .st 72), (48, 57, .st 203), (58, 58, .st 162), (65, 70, .st 160),
     (93, 93, .st 460), (97, 102, .st 160)],
  /- 203 -/ [(46, 46, .st 72), (48, 57, .st 161), (58, 58, .st 162), (65, 70, .st 161),
     (93, 93, .st 460), (97, 102, .st 161)],
  /- 204 -/ [(46, 46, .st 72), (48, 52, .st 205), (53, 53, .st 206), (54, 57, .st 205),
     (58, 58, .st 162), (65, 70, .st 159), (93, 93, .st 460), (97, 102, .st 159)],
  /- 205 -/ [(46, 46, .st 72), (48, 57, .st 160), (58, 58, .st 162), (65, 70, .st 160),
     (93, 93, .st 460), (97, 102, .st 160)],
  /- 206 -/ [(46, 46, .st 72), (48, 53, .st 203), (54, 57, .st 160), (58, 58, .st 162),
     (65, 70, .st 160), (93, 93, .st 460), (97, 102, .st 160)],
  /- 207 -/ [(46, 46, .st 72), (48, 57, .st 205), (58, 58, .st 162), (65, 70, .st 159),
     (93, 93, .st 460), (97, 102, .st 159)],
  /- 208 -/ [(48, 57, .st 159), (58, 58, .st 162), (65, 70, .st 159), (93, 93, .st 460),
     (97, 102, .st 159)],
  /- 209 -/ [(46, 46, .st 72), (48, 57, .st 210), (58, 58, .st 157), (65, 70, .st 154),
     (93, 93, .st 460), (97, 102, .st 154)],
  /- 210 -/ [(46, 46, .st 72), (48, 57, .st 211), (58, 58, .st 157), (65, 70, .st 155),
     (93, 93, .st 460), (97, 102, .st 155)],
  /- 211 -/ [(46, 46, .st 72), (48, 57, .st 156), (58, 58, .st 157), (65, 70, .st 156),
     (93, 93, .st 460), (97, 102, .st 156)],
  /- 212 -/ [(46, 46, .st 72), (48, 52, .st 213), (53, 53, .st 214), (54, 57, .st 213),
     (58, 58, .st 157), (65, 70, .st 154), (93, 93, .st 460), (97, 102, .st 154)],
  /- 213 -/ [(46, 46, .st 72), (48, 57, .st 155), (58, 58, .st 157), (65, 70, .st 155),
     (93, 93, .st 460), (97, 102, .st 155)],
  /- 214 -/ [(46, 46, .st 72), (48, 53, .st 211), (54, 57, .st 155), (58, 58, .st 157),
     (65, 70, .st 155), (93, 93, .st 460), (97, 102, .st 155)],
  /- 215 -/ [(46, 46, .st 72), (48, 57, .st 213), (58, 58, .st 157), (65, 70, .st 154),
     (93, 93, .st 460), (97, 102, .st 154)],
  /- 216 -/ [(48, 57, .st 154), (58, 58, .st 157), (65, 70, .st 154), (93, 93, .st 460),
     (97, 102, .st 154)],
  /- 217 -/ [(46, 46, .st 72), (48, 57, .st 218), (58, 58, .st 152), (65, 70, .st 149),
     (93, 93, .st 460), (97, 102, .st 149)],
  /- 218 -/ [(46, 46, .st 72), (48, 57, .st 219), (58, 58, .st 152), (65, 70, .st 150),
     (93, 93, .st 460), (97, 102, .st 150)],
  /- 219 -/ [(46, 46, .st 72), (48, 57, .st 151), (58, 58, .st 152), (65, 70, .st 151),
     (93, 93, .st 460), (97, 102, .st 151)],
  /- 220 -/ [(46, 46, .st 72), (48, 52, .st 221), (53, 53, .st 222), (54, 57, .st 221),
     (58, 58, .st 152), (65, 70, .st 149), (93, 93, .st 460), (97, 102, .st 149)],
  /- 221 -/ [(46, 46, .st 72), (48, 57, .st 150), (58, 58, .st 152), (65, 70, .st 150),
     (93, 93, .st 460), (97, 102, .st 150)],
  /- 222 -/ [(46, 46, .st 72), (48, 53, .st 219), (54, 57, .st 150), (58, 58, .st 152),
     (65, 70, .st 150), (93, 93, .st 460), (97, 102, .st 150)],
  /- 223 -/ [(46, 46, .st 72), (48, 57, .st 221), (58, 58, .st 152), (65, 70, .st 149),
     (93, 93, .st 460), (97, 102, .st 149)],
  /- 224 -/ [(48, 57, .st 149), (58, 58, .st 152), (65, 70, .st 149), (93, 93, .st 460),
     (97, 102, .st 149)],
  /- 225 -/ [(48, 57, .st 226), (65, 70, .st 226), (97, 102, .st 226)],
  /- 226 -/ [(46, 46, .st 227), (48, 57, .st 226), (65, 70, .st 226), (97, 102, .st 226)],
  /- 227 -/ [(33, 33, .st 228), (36, 36, .st 228), (38, 46, .st 228), (48, 59, .st 228),
     (61, 61, .st 228), (65, 90, .st 228), (95, 95, .st 228), (97, 122, .st 228),
     (126, 126, .st 228)],
  /- 228 -/ [(33, 33, .st 228), (36, 36, .st 228), (38, 46, .st 228), (48, 59, .st 228),
     (61, 61, .st 228), (65, 90, .st 228), (93, 93, .st 460), (95, 95, .st 228),
     (97, 122, .st 228), (126, 126, .st 228)],
  /- 229 -/ [(48, 52, .st 230)],
  /- 230 -/ [(48, 57, .st 231)],
  /- 231 -/ [(46, 46, .st 232)],
  /- 232 -/ [(2, 2, .st 233), (48, 48, .st 235), (49, 49, .st 249), (50, 50, .st 251),
     (51, 57, .st 250)],
  /- 233 -/ [(48, 52, .st 234)],
  /- 234 -/ [(48, 57, .st 235)],
  /- 235 -/ [(46, 46, .st 236)],
  /- 236 -/ [(2, 2, .st 237), (48, 48, .st 239), (49, 49, .st 245), (50, 50, .st 247),
     (51, 57, .st 246)],
  /- 237 -/ [(48, 52, .st 238)],
  /- 238 -/ [(48, 57, .st 239)],
  /- 239 -/ [(46, 46, .st 240)]]

def rows3 : List (Row Goto) := [
  /- 240 -/ [(2, 2, .st 241), (48, 48, .st 512), (49, 49, .st 516), (50, 50, .st 518),
     (51, 57, .st 517)],
  /- 241 -/ [(48, 52, .st 242)],
  /- 242 -/ [(48, 57, .st 512)],
  /- 243 -/ [(48, 57, .st 244), (65, 70, .st 244), (97, 102, .st 244)],
  /- 244 -/ [(48, 57, .st 513), (65, 70, .st 513), (97, 102, .st 513)],
  /- 245 -/ [(46, 46, .st 240), (48, 57, .st 246)],
  /- 246 -/ [(46, 46, .st 240), (48, 57, .st 239)],
  /- 247 -/ [(46, 46, .st 240), (48, 52, .st 239), (53, 53, .st 248), (54, 57, .st 239)],
  /- 248 -/ [(46, 46, .st 240), (48, 53, .st 239)],
  /- 249 -/ [(46, 46, .st 236), (48, 57, .st 250)],
  /- 250 -/ [(46, 46, .st 236), (48, 57, .st 235)],
  /- 251 -/ [(46, 46, .st 236), (48, 52, .st 235), (53, 53, .st 252), (54, 57, .st 235)],
  /- 252 -/ [(46, 46, .st 236), (48, 53, .st 235)],
  /- 253 -/ [(48, 57, .st 254), (65, 70, .st 254), (97, 102, .st 254)],
  /- 254 -/ [(48, 57, .st 520), (65, 70, .st 520), (97, 102, .st 520)],
  /- 255 -/ [(33, 33, .st 255), (36, 36, .st 255), (37, 37, .st 256), (38, 46, .st 255),
     (48, 59, .st 255), (61, 61, .st 255), (64, 64, .tr 263), (65, 90, .st 255),
     (95, 95, .st 255), (97, 122, .st 255), (126, 126, .st 255)],
  /- 256 -/ [(48, 57, .st 257), (65, 70, .st 257), (97, 102, .st 257)],
  /- 257 -/ [(48, 57, .st 255), (65, 70, .st 255), (97, 102, .st 255)],
  /- 258 -/ [(48, 57, .st 259), (65, 70, .st 259), (97, 102, .st 259)],
  /- 259 -/ [(48, 57, .st 523), (65, 70, .st 523), (97, 102, .st 523)],
  /- 260 -/ [(48, 57, .st 261), (58, 58, .st 368), (65, 70, .st 261), (97, 102, .st 261),
     (118, 118, .st 447)],
  /- 261 -/ [(48, 57, .st 262), (58, 58, .st 265), (65, 70, .st 262), (97, 102, .st 262)],
  /- 262 -/ [(48, 57, .st 263), (58, 58, .st 265), (65, 70, .st 263), (97, 102, .st 263)],
  /- 263 -/ [(48, 57, .st 264), (58, 58, .st 265), (65, 70, .st 264), (97, 102, .st 264)],
  /- 264 -/ [(58, 58, .st 265)],
  /- 265 -/ [(48, 57, .st 266), (58, 58, .st 363), (65, 70, .st 266), (97, 102, .st 266)],
  /- 266 -/ [(48, 57, .st 267), (58, 58, .st 270), (65, 70, .st 267), (97, 102, .st 267)],
  /- 267 -/ [(48, 57, .st 268), (58, 58, .st 270), (65, 70, .st 268), (97, 102, .st 268)],
  /- 268 -/ [(48, 57, .st 269), (58, 58, .st 270), (65, 70, .st 269), (97, 102, .st 269)],
  /- 269 -/ [(58, 58, .st 270)],
  /- 270 -/ [(48, 57, .st 271), (58, 58, .st 358), (65, 70, .st 271), (97, 102, .st 271)],
  /- 271 -/ [(48, 57, .st 272), (58, 58, .st 275), (65, 70, .st 272), (97, 102, .st 272)],
  /- 272 -/ [(48, 57, .st 273), (58, 58, .st 275), (65, 70, .st 273), (97, 102, .st 273)],
  /- 273 -/ [(48, 57, .st 274), (58, 58, .st 275), (65, 70, .st 274), (97, 102, .st 274)],
  /- 274 -/ [(58, 58, .st 275)],
  /- 275 -/ [(48, 57, .st 276), (58, 58, .st 353), (65, 70, .st 276), (97, 102, .st 276)],
  /- 276 -/ [(48, 57, .st 277), (58, 58, .st 280), (65, 70, .st 277), (97, 102, .st 277)],
  /- 277 -/ [(48, 57, .st 278), (58, 58, .st 280), (65, 70, .st 278), (97, 102, .st 278)],
  /- 278 -/ [(48, 57, .st 279), (58, 58, .st 280), (65, 70, .st 279), (97, 102, .st 279)],
  /- 279 -/ [(58, 58, .st 280)],
  /- 280 -/ [(48, 57, .st 281), (58, 58, .st 348), (65, 70, .st 281), (97, 102, .st 281)],
  /- 281 -/ [(48, 57, .st 282), (58, 58, .st 285), (65, 70, .st 282), (97, 102, .st 282)],
  /- 282 -/ [(48, 57, .st 283), (58, 58, .st 285), (65, 70, .st 283), (97, 102, .st 283)],
  /- 283 -/ [(48, 57, .st 284), (58, 58, .st 285), (65, 70, .st 284), (97, 102, .st 284)],
  /- 284 -/ [(58, 58, .st 285)],
  /- 285 -/ [(48, 57, .st 286), (58, 58, .st 335), (65, 70, .st 286), (97, 102, .st 286)],
  /- 286 -/ [(48, 57, .st 287), (58, 58, .st 290), (65, 70, .st 287), (97, 102, .st 287)],
  /- 287 -/ [(48, 57, .st 288), (58, 58, .st 290), (65, 70, .st 288), (97, 102, .st 288)],
  /- 288 -/ [(48, 57, .st 289), (58, 58, .st 290), (65, 70, .st 289), (97, 102, .st 289)],
  /- 289 -/ [(58, 58, .st 290)],
  /- 290 -/ [(2, 2, .st 291), (48, 48, .st 318), (49, 49, .st 326), (50, 50, .st 329),
     (51, 57, .st 332), (58, 58, .st 333), (65, 70, .st 334), (97, 102, .st 334)],
  /- 291 -/ [(48, 52, .st 292)],
  /- 292 -/ [(48, 57, .st 293)],
  /- 293 -/ [(46, 46, .st 294)],
  /- 294 -/ [(2, 2, .st 295), (48, 48, .st 297), (49, 49, .st 314), (50, 50, .st 316),
     (51, 57, .st 315)],
  /- 295 -/ [(48, 52, .st 296)],
  /- 296 -/ [(48, 57, .st 297)],
  /- 297 -/ [(46, 46, .st 298)],
  /- 298 -/ [(2, 2, .st 299), (48, 48, .st 301), (49, 49, .st 310), (50, 50, .st 312),
     (51, 57, .st 311)],
  /- 299 -/ [(48, 52, .st 300)],
  /- 300 -/ [(48, 57, .st 301)],
  /- 301 -/ [(46, 46, .st 302)],
  /- 302 -/ [(2, 2, .st 303), (48, 48, .st 305), (49, 49, .st 306), (50, 50, .st 308),
     (51, 57, .st 307)],
  /- 303 -/ [(48, 52, .st 304)],
  /- 304 -/ [(48, 57, .st 305)],
  /- 305 -/ [(93, 93, .st 512)],
  /- 306 -/ [(48, 57, .st 307), (93, 93, .st 512)],
  /- 307 -/ [(48, 57, .st 305), (93, 93, .st 512)],
  /- 308 -/ [(48, 52, .st 305), (53, 53, .st 309), (54, 57, .st 305), (93, 93, .st 512)],
  /- 309 -/ [(48, 53, .st 305), (93, 93, .st 512)],
  /- 310 -/ [(46, 46, .st 302), (48, 57, .st 311)],
  /- 311 -/ [(46, 46, .st 302), (48, 57, .st 301)],
  /- 312 -/ [(46, 46, .st 302), (48, 52, .st 301), (53, 53, .st 313), (54, 57, .st 301)],
  /- 313 -/ [(46, 46, .st 302), (48, 53, .st 301)],
  /- 314 -/ [(46, 46, .st 298), (48, 57, .st 315)],
  /- 315 -/ [(46, 46, .st 298), (48, 57, .st 297)],
  /- 316 -/ [(46, 46, .st 298), (48, 52, .st 297), (53, 53, .st 317), (54, 57, .st 297)],
  /- 317 -/ [(46, 46, .st 298), (48, 53, .st 297)],
  /- 318 -/ [(46, 46, .st 294), (48, 57, .st 319), (58, 58, .st 322), (65, 70, .st 319),
     (97, 102, .st 319)],
  /- 319 -/ [(48, 57, .st 320), (58, 58, .st 322), (65, 70, .st 320), (97, 102, .st 320)]]

def rows4 : List (Row Goto) := [
  /- 320 -/ [(48, 57, .st 321), (58, 58, .st 322), (65, 70, .st 321), (97, 102, .st 321)],
  /- 321 -/ [(58, 58, .st 322)],
  /- 322 -/ [(48, 57, .st 323), (58, 58, .st 305), (65, 70, .st 323), (97, 102, .st 323)],
  /- 323 -/ [(48, 57, .st 324), (65, 70, .st 324), (93, 93, .st 512), (97, 102, .st 324)],
  /- 324 -/ [(48, 57, .st 325), (65, 70, .st 325), (93, 93, .st 512), (97, 102, .st 325)],
  /- 325 -/ [(48, 57, .st 305), (65, 70, .st 305), (93, 93, .st 512), (97, 102, .st 305)],
  /- 326 -/ [(46, 46, .st 294), (48, 57, .st 327), (58, 58, .st 322), (65, 70, .st 319),
     (97, 102, .st 319)],
  /- 327 -/ [(46, 46, .st 294), (48, 57, .st 328), (58, 58, .st 322), (65, 70, .st 320),
     (97, 102, .st 320)],
  /- 328 -/ [(46, 46, .st 294), (48, 57, .st 321), (58, 58, .st 322), (65, 70, .st 321),
     (97, 102, .st 321)],
  /- 329 -/ [(46, 46, .st 294), (48, 52, .st 330), (53, 53, .st 331), (54, 57, .st 330),
     (58, 58, .st 322), (65, 70, .st 319), (97, 102, .st 319)],
  /- 330 -/ [(46, 46, .st 294), (48, 57, .st 320), (58, 58, .st 322), (65, 70, .st 320),
     (97, 102, .st 320)],
  /- 331 -/ [(46, 46, .st 294), (48, 53, .st 328), (54, 57, .st 320), (58, 58, .st 322),
     (65, 70, .st 320), (97, 102, .st 320)],
  /- 332 -/ [(46, 46, .st 294), (48, 57, .st 330), (58, 58, .st 322), (65, 70, .st 319),
     (97, 102, .st 319)],
  /- 333 -/ [(48, 57, .st 323), (65, 70, .st 323), (97, 102, .st 323)],
  /- 334 -/ [(48, 57, .st 319), (58, 58, .st 322), (65, 70, .st 319), (97, 102, .st 319)],
  /- 335 -/ [(2, 2, .st 291), (48, 48, .st 336), (49, 49, .st 340), (50, 50, .st 343),
     (51, 57, .st 346), (65, 70, .st 347), (97, 102, .st 347)],
  /- 336 -/ [(46, 46, .st 294), (48, 57, .st 337), (58, 58, .st 333), (65, 70, .st 337),
     (97, 102, .st 337)],
  /- 337 -/ [(48, 57, .st 338), (58, 58, .st 333), (65, 70, .st 338), (97, 102, .st 338)],
  /- 338 -/ [(48, 57, .st 339), (58, 58, .st 333), (65, 70, .st 339), (97, 102, .st 339)],
  /- 339 -/ [(58, 58, .st 333)],
  /- 340 -/ [(46, 46, .st 294), (48, 57, .st 341), (58, 58, .st 333), (65, 70, .st 337),
     (97, 102, .st 337)],
  /- 341 -/ [(46, 46, .st 294), (48, 57, .st 342), (58, 58, .st 333), (65, 70, .st 338),
     (97, 102, .st 338)],
  /- 342 -/ [(46, 46, .st 294), (48, 57, .st 339), (58, 58, .st 333), (65, 70, .st 339),
     (97, 102, .st 339)],
  /- 343 -/ [(46, 46, .st 294), (48, 52, .st 344), (53, 53, .st 345), (54, 57, .st 344),
     (58, 58, .st 333), (65, 70, .st 337), (97, 102, .st 337)],
  /- 344 -/ [(46, 46, .st 294), (48, 57, .st 338), (58, 58, .st 333), (65, 70, .st 338),
     (97, 102, .st 338)],
  /- 345 -/ [(46, 46, .st 294), (48, 53, .st 342), (54, 57, .st 338), (58, 58, .st 333),
     (65, 70, .st 338), (97, 102, .st 338)],
  /- 346 -/ [(46, 46, .st 294), (48, 57, .st 344), (58, 58, .st 333), (65, 70, .st 337),
     (97, 102, .st 337)],
  /- 347 -/ [(48, 57, .st 337), (58, 58, .st 333), (65, 70, .st 337), (97, 102, .st 337)],
  /- 348 -/ [(48, 57, .st 349), (65, 70, .st 349), (97, 102, .st 349)],
  /- 349 -/ [(48, 57, .st 350), (58, 58, .st 335), (65, 70, .st 350), (97, 102, .st 350)],
  /- 350 -/ [(48, 57, .st 351), (58, 58, .st 335), (65, 70, .st 351), (97, 102, .st 351)],
  /- 351 -/ [(48, 57, .st 352), (58, 58, .st 335), (65, 70, .st 352), (97, 102, .st 352)],
  /- 352 -/ [(58, 58, .st 335)],
  /- 353 -/ [(48, 57, .st 354), (65, 70, .st 354), (97, 102, .st 354)],
  /- 354 -/ [(48, 57, .st 355), (58, 58, .st 348), (65, 70, .st 355), (97, 102, .st 355)],
  /- 355 -/ [(48, 57, .st 356), (58, 58, .st 348), (65, 70, .st 356), (97, 102, .st 356)],
  /- 356 -/ [(48, 57, .st 357), (58, 58, .st 348), (65, 70, .st 357), (97, 102, .st 357)],
  /- 357 -/ [(58, 58, .st 348)],
  /- 358 -/ [(48, 57, .st 359), (65, 70, .st 359), (97, 102, .st 359)],
  /- 359 -/ [(48, 57, .st 360), (58, 58, .st 353), (65, 70, .st 360), (97, 102, .st 360)],
  /- 360 -/ [(48, 57, .st 361), (58, 58, .st 353), (65, 70, .st 361), (97, 102, .st 361)],
  /- 361 -/ [(48, 57, .st 362), (58, 58, .st 353), (65, 70, .st 362), (97, 102, .st 362)],
  /- 362 -/ [(58, 58, .st 353)],
  /- 363 -/ [(48, 57, .st 364), (65, 70, .st 364), (97, 102, .st 364)],
  /- 364 -/ [(48, 57, .st 365), (58, 58, .st 358), (65, 70, .st 365), (97, 102, .st 365)],
  /- 365 -/ [(48, 57, .st 366), (58, 58, .st 358), (65, 70, .st 366), (97, 102, .st 366)],
  /- 366 -/ [(48, 57, .st 367), (58, 58, .st 358), (65, 70, .st 367), (97, 102, .st 367)],
  /- 367 -/ [(58, 58, .st 358)],
  /- 368 -/ [(58, 58, .st 369)],
  /- 369 -/ [(2, 2, .st 291), (48, 48, .st 370), (49, 49, .st 439), (50, 50, .st 442),
     (51, 57, .st 445), (65, 70, .st 446), (93, 93, .st 512), (97, 102, .st 446)],
  /- 370 -/ [(46, 46, .st 294), (48, 57, .st 371), (58, 58, .st 374), (65, 70, .st 371),
     (93, 93, .st 512), (97, 102, .st 371)],
  /- 371 -/ [(48, 57, .st 372), (58, 58, .st 374), (65, 70, .st 372), (93, 93, .st 512),
     (97, 102, .st 372)],
  /- 372 -/ [(48, 57, .st 373), (58, 58, .st 374), (65, 70, .st 373), (93, 93, .st 512),
     (97, 102, .st 373)],
  /- 373 -/ [(58, 58, .st 374), (93, 93, .st 512)],
  /- 374 -/ [(2, 2, .st 291), (48, 48, .st 375), (49, 49, .st 431), (50, 50, .st 434),
     (51, 57, .st 437), (65, 70, .st 438), (97, 102, .st 438)],
  /- 375 -/ [(46, 46, .st 294), (48, 57, .st 376), (58, 58, .st 379), (65, 70, .st 376),
     (93, 93, .st 512), (97, 102, .st 376)],
  /- 376 -/ [(48, 57, .st 377), (58, 58, .st 379), (65, 70, .st 377), (93, 93, .st 512),
     (97, 102, .st 377)],
  /- 377 -/ [(48, 57, .st 378), (58, 58, .st 379), (65, 70, .st 378), (93, 93, .st 512),
     (97, 102, .st 378)],
  /- 378 -/ [(58, 58, .st 379), (93, 93, .st 512)],
  /- 379 -/ [(2, 2, .st 291), (48, 48, .st 380), (49, 49, .st 423), (50, 50, .st 426),
     (51, 57, .st 429), (65, 70, .st 430), (97, 102, .st 430)],
  /- 380 -/ [(46, 46, .st 294), (48, 57, .st 381), (58, 58, .st 384), (65, 70, .st 381),
     (93, 93, .st 512), (97, 102, .st 381)],
  /- 381 -/ [(48, 57, .st 382), (58, 58, .st 384), (65, 70, .st 382), (93, 93, .st 512),
     (97, 102, .st 382)],
  /- 382 -/ [(48, 57, .st 383), (58, 58, .st 384), (65, 70, .st 383), (93, 93, .st 512),
     (97, 102, .st 383)],
  /- 383 -/ [(58, 58, .st 384), (93, 93, .st 512)],
  /- 384 -/ [(2, 2, .st 291), (48, 48, .st 385), (49, 49, .st 415), (50, 50, .st 418),
     (51, 57, .st 421), (65, 70, .st 422), (97, 102, .st 422)],
  /- 385 -/ [(46, 46, .st 294), (48, 57, .st 386), (58, 58, .st 389), (65, 70, .st 386),
     (93, 93, .st 512), (97, 102, .st 386)],
  /- 386 -/ [(48, 57, .st 387), (58, 58, .st 389), (65, 70, .st 387), (93, 93, .st 512),
     (97, 102, .st 387)],
  /- 387 -/ [(48, 57, .st 388), (58, 58, .st 389), (65, 70, .st 388), (93, 93, .st 512),
     (97, 102, .st 388)],
  /- 388 -/ [(58, 58, .st 389), (93, 93, .st 512)],
  /- 389 -/ [(2, 2, .st 291), (48, 48, .st 390), (49, 49, .st 407), (50, 50, .st 410),
     (51, 57, .st 413), (65, 70, .st 414), (97, 102, .st 414)],
  /- 390 -/ [(46, 46, .st 294), (48, 57, .st 391), (58, 58, .st 394), (65, 70, .st 391),
     (93, 93, .st 512), (97, 102, .st 391)],
  /- 391 -/ [(48, 57, .st 392), (58, 58, .st 394), (65, 70, .st 392), (93, 93, .st 512),
     (97, 102, .st 392)],
  /- 392 -/ [(48, 57, .st 393), (58, 58, .st 394), (65, 70, .st 393), (93, 93, .st 512),
     (97, 102, .st 393)],
  /- 393 -/ [(58, 58, .st 394), (93, 93, .st 512)],
  /- 394 -/ [(2, 2, .st 291), (48, 48, .st 395), (49, 49, .st 399), (50, 50, .st 402),
     (51, 57, .st 405), (65, 70, .st 406), (97, 102, .st 406)],
  /- 395 -/ [(46, 46, .st 294), (48, 57, .st 396), (58, 58, .st 333), (65, 70, .st 396),
     (93, 93, .st 512), (97, 102, .st 396)],
  /- 396 -/ [(48, 57, .st 397), (58, 58, .st 333), (65, 70, .st 397), (93, 93, .st 512),
     (97, 102, .st 397)],
  /- 397 -/ [(48, 57, .st 398), (58, 58, .st 333), (65, 70, .st 398), (93, 93, .st 512),
     (97, 102, .st 398)],
  /- 398 -/ [(58, 58, .st 333), (93, 93, .st 512)],
  /- 399 -/ [(46, 46, .st 294), (48, 57, .st 400), (58, 58, .st 333), (65, 70, .st 396),
     (93, 93, .st 512), (97, 102, .st 396)]]

def rows5 : List (Row Goto) := [
  /- 400 -/ [(46, 46, .st 294), (48, 57, .st 401), (58, 58, .st 333), (65, 70, .st 397),
     (93, 93, .st 512), (97, 102, .st 397)],
  /- 401 -/ [(46, 46, .st 294), (48, 57, .st 398), (58, 58, .st 333), (65, 70, .st 398),
     (93, 93, .st 512), (97, 102, .st 398)],
  /- 402 -/ [(46, 46, .st 294), (48, 52, .st 403), (53, 53, .st 404), (54, 57, .st 403),
     (58, 58, .st 333), (65, 70, .st 396), (93, 93, .st 512), (97, 102, .st 396)],
  /- 403 -/ [(46, 46, .st 294), (48, 57, .st 397), (58, 58, .st 333), (65, 70, .st 397),
     (93, 93, .st 512), (97, 102, .st 397)],
  /- 404 -/ [(46, 46, .st 294), (48, 53, .st 401), (54, 57, .st 397), (58, 58, .st 333),
     (65, 70, .st 397), (93, 93, .st 512), (97, 102, .st 397)],
  /- 405 -/ [(46, 46, .st 294), (48, 57, .st 403), (58, 58, .st 333), (65, 70, .st 396),
     (93, 93, .st 512), (97, 102, .st 396)],
  /- 406 -/ [(48, 57, .st 396), (58, 58, .st 333), (65, 70, .st 396), (93, 93, .st 512),
     (97, 102, .st 396)],
  /- 407 -/ [(46, 46, .st 294), (48, 57, .st 408), (58, 58, .st 394), (65, 70, .st 391),
     (93, 93, .st 512), (97, 102, .st 391)],
  /- 408 -/ [(46, 46, .st 294), (48, 57, .st 409), (58, 58, .st 394), (65, 70, .st 392),
     (93, 93, .st 512), (97, 102, .st 392)],
  /- 409 -/ [(46, 46, .st 294), (48, 57, .st 393), (58, 58, .st 394), (65, 70, .st 393),
     (93, 93, .st 512), (97, 102, .st 393)],
  /- 410 -/ [(46, 46, .st 294), (48, 52, .st 411), (53, 53, .st 412), (54, 57, .st 411),
     (58, 58, .st 394), (65, 70, .st 391), (93, 93, .st 512), (97, 102, .st 391)],
  /- 411 -/ [(46, 46, .st 294), (48, 57, .st 392), (58, 58, .st 394), (65, 70, .st 392),
     (93, 93, .st 512), (97, 102, .st 392)],
  /- 412 -/ [(46, 46, .st 294), (48, 53, .st 409), (54, 57, .st 392), (58, 58, .st 394),
     (65, 70, .st 392), (93, 93, .st 512), (97, 102, .st 392)],
  /- 413 -/ [(46, 46, .st 294), (48, 57, .st 411), (58, 58, .st 394), (65, 70, .st 391),
     (93, 93, .st 512), (97, 102, .st 391)],
  /- 414 -/ [(48, 57, .st 391), (58, 58, .st 394), (65, 70, .st 391), (93, 93, .st 512),
     (97, 102, .st 391)],
  /- 415 -/ [(46, 46, .st 294), (48, 57, .st 416), (58, 58, .st 389), (65, 70, .st 386),
     (93, 93, .st 512), (97, 102, .st 386)],
  /- 416 -/ [(46, 46, .st 294), (48, 57, .st 417), (58, 58, .st 389), (65, 70, .st 387),
     (93, 93, .st 512), (97, 102, .st 387)],
  /- 417 -/ [(46, 46, .st 294), (48, 57, .st 388), (58, 58, .st 389), (65, 70, .st 388),
     (93, 93, .st 512), (97, 102, .st 388)],
  /- 418 -/ [(46, 46, .st 294), (48, 52, .st 419), (53, 53, .st 420), (54, 57, .st 419),
     (58, 58, .st 389), (65, 70, .st 386), (93, 93, .st 512), (97, 102, .st 386)],
  /- 419 -/ [(46, 46, .st 294), (48, 57, .st 387), (58, 58, .st 389), (65, 70, .st 387),
     (93, 93, .st 512), (97, 102, .st 387)],
  /- 420 -/ [(46, 46, .st 294), (48, 53, .st 417), (54, 57, .st 387), (58, 58, .st 389),
     (65, 70, .st 387), (93, 93, .st 512), (97, 102, .st 387)],
  /- 421 -/ [(46, 46, .st 294), (48, 57, .st 419), (58, 58, .st 389), (65, 70, .st 386),
     (93, 93, .st 512), (97, 102, .st 386)],
  /- 422 -/ [(48, 57, .st 386), (58, 58, .st 389), (65, 70, .st 386), (93, 93, .st 512),
     (97, 102, .st 386)],
  /- 423 -/ [(46, 46, .st 294), (48, 57, .st 424), (58, 58, .st 384), (65, 70, .st 381),
     (93, 93, .st 512), (97, 102, .st 381)],
  /- 424 -/ [(46, 46, .st 294), (48, 57, .st 425), (58, 58, .st 384), (65, 70, .st 382),
     (93, 93, .st 512), (97, 102, .st 382)],
  /- 425 -/ [(46, 46, .st 294), (48, 57, .st 383), (58, 58, .st 384), (65, 70, .st 383),
     (93, 93, .st 512), (97, 102, .st 383)],
  /- 426 -/ [(46, 46, .st 294), (48, 52, .st 427), (53, 53, .st 428), (54, 57, .st 427),
     (58, 58, .st 384), (65, 70, .st 381), (93, 93, .st 512), (97, 102, .st 381)],
  /- 427 -/ [(46, 46, .st 294), (48, 57, .st 382), (58, 58, .st 384), (65, 70, .st 382),
     (93, 93, .st 512), (97, 102, .st 382)],
  /- 428 -/ [(46, 46, .st 294), (48, 53, .st 425), (54, 57, .st 382), (58, 58, .st 384),
     (65, 70, .st 382), (93, 93, .st 512), (97, 102, .st 382)],
  /- 429 -/ [(46, 46, .st 294), (48, 57, .st 427), (58, 58, .st 384), (65, 70, .st 381),
     (93, 93, .st 512), (97, 102, .st 381)],
  /- 430 -/ [(48, 57, .st 381), (58, 58, .st 384), (65, 70, .st 381), (93, 93, .st 512),
     (97, 102, .st 381)],
  /- 431 -/ [(46, 46, .st 294), (48, 57, .st 432), (58, 58, .st 379), (65, 70, .st 376),
     (93, 93, .st 512), (97, 102, .st 376)],
  /- 432 -/ [(46, 46, .st 294), (48, 57, .st 433), (58, 58, .st 379), (65, 70, .st 377),
     (93, 93, .st 512), (97, 102, .st 377)],
  /- 433 -/ [(46, 46, .st 294), (48, 57, .st 378), (58, 58, .st 379), (65, 70, .st 378),
     (93, 93, .st 512), (97, 102, .st 378)],
  /- 434 -/ [(46, 46, .st 294), (48, 52, .st 435), (53, 53, .st 436), (54, 57, .st 435),
     (58, 58, .st 379), (65, 70, .st 376), (93, 93, .st 512), (97, 102, .st 376)],
  /- 435 -/ [(46, 46, .st 294), (48, 57, .st 377), (58, 58, .st 379), (65, 70, .st 377),
     (93, 93, .st 512), (97, 102, .st 377)],
  /- 436 -/ [(46, 46, .st 294), (48, 53, .st 433), (54, 57, .st 377), (58, 58, .st 379),
     (65, 70, .st 377), (93, 93, .st 512), (97, 102, .st 377)],
  /- 437 -/ [(46, 46, .st 294), (48, 57, .st 435), (58, 58, .st 379), (65, 70, .st 376),
     (93, 93, .st 512), (97, 102, .st 376)],
  /- 438 -/ [(48, 57, .st 376), (58, 58, .st 379), (65, 70, .st 376), (93, 93, .st 512),
     (97, 102, .st 376)],
  /- 439 -/ [(46, 46, .st 294), (48, 57, .st 440), (58, 58, .st 374), (65, 70, .st 371),
     (93, 93, .st 512), (97, 102, .st 371)],
  /- 440 -/ [(46, 46, .st 294), (48, 57, .st 441), (58, 58, .st 374), (65, 70, .st 372),
     (93, 93, .st 512), (97, 102, .st 372)],
  /- 441 -/ [(46, 46, .st 294), (48, 57, .st 373), (58, 58, .st 374), (65, 70, .st 373),
     (93, 93, .st 512), (97, 102, .st 373)],
  /- 442 -/ [(46, 46, .st 294), (48, 52, .st 443), (53, 53, .st 444), (54, 57, .st 443),
     (58, 58, .st 374), (65, 70, .st 371), (93, 93, .st 512), (97, 102, .st 371)],
  /- 443 -/ [(46, 46, .st 294), (48, 57, .st 372), (58, 58, .st 374), (65, 70, .st 372),
     (93, 93, .st 512), (97, 102, .st 372)],
  /- 444 -/ [(46, 46, .st 294), (48, 53, .st 441), (54, 57, .st 372), (58, 58, .st 374),
     (65, 70, .st 372), (93, 93, .st 512), (97, 102, .st 372)],
  /- 445 -/ [(46, 46, .st 294), (48, 57, .st 443), (58, 58, .st 374), (65, 70, .st 371),
     (93, 93, .st 512), (97, 102, .st 371)],
  /- 446 -/ [(48, 57, .st 371), (58, 58, .st 374), (65, 70, .st 371), (93, 93, .st 512),
     (97, 102, .st 371)],
  /- 447 -/ [(48, 57, .st 448), (65, 70, .st 448), (97, 102, .st 448)],
  /- 448 -/ [(46, 46, .st 449), (48, 57, .st 448), (65, 70, .st 448), (97, 102, .st 448)],
  /- 449 -/ [(33, 33, .st 450), (36, 36, .st 450), (38, 46, .st 450), (48, 59, .st 450),
     (61, 61, .st 450), (65, 90, .st 450), (95, 95, .st 450), (97, 122, .st 450),
     (126, 126, .st 450)],
  /- 450 -/ [(33, 33, .st 450), (36, 36, .st 450), (38, 46, .st 450), (48, 59, .st 450),
     (61, 61, .st 450), (65, 90, .st 450), (93, 93, .st 512), (95, 95, .st 450),
     (97, 122, .st 450), (126, 126, .st 450)],
  /- 451 -/ [(33, 33, .st 452), (35, 35, .st 453), (36, 36, .st 452), (37, 37, .st 3),
     (38, 46, .st 452), (47, 47, .st 458), (48, 57, .st 452), (59, 59, .st 452),
     (61, 61, .st 452), (63, 63, .st 456), (64, 64, .st 452), (65, 90, .tr 461),
     (95, 95, .st 452), (97, 122, .tr 461), (126, 126, .st 452), (128, 255, .st 452)],
  /- 452 -/ [(33, 33, .st 452), (35, 35, .st 453), (36, 36, .st 452), (37, 37, .st 3),
     (38, 46, .st 452), (47, 47, .st 455), (48, 57, .st 452), (59, 59, .st 452),
     (61, 61, .st 452), (63, 63, .st 456), (64, 90, .st 452), (95, 95, .st 452),
     (97, 122, .st 452), (126, 126, .st 452), (128, 255, .st 452)],
  /- 453 -/ [(33, 33, .tr 462), (36, 36, .tr 462), (37, 37, .tr 463), (38, 59, .tr 462),
     (61, 61, .tr 462), (63, 90, .tr 462), (95, 95, .tr 462), (97, 122, .tr 462),
     (126, 126, .tr 462), (128, 255, .tr 462)],
  /- 454 -/ [(33, 33, .st 454), (36, 36, .st 454), (37, 37, .st 1), (38, 59, .st 454),
     (61, 61, .st 454), (63, 90, .st 454), (95, 95, .st 454), (97, 122, .st 454),
     (126, 126, .st 454), (128, 255, .st 454)],
  /- 455 -/ [(33, 33, .st 455), (35, 35, .st 453), (36, 36, .st 455), (37, 37, .st 5),
     (38, 59, .st 455), (61, 61, .st 455), (63, 63, .st 456), (64, 90, .st 455),
     (95, 95, .st 455), (97, 122, .st 455), (126, 126, .st 455), (128, 255, .st 455)],
  /- 456 -/ [(33, 33, .tr 466), (35, 35, .tr 467), (36, 36, .tr 466), (37, 37, .tr 468),
     (38, 59, .tr 466), (61, 61, .tr 466), (63, 90, .tr 466), (95, 95, .tr 466),
     (97, 122, .tr 466), (126, 126, .tr 466), (128, 255, .tr 466)],
  /- 457 -/ [(33, 33, .st 457), (35, 35, .tr 469), (36, 36, .st 457), (37, 37, .st 7),
     (38, 59, .st 457), (61, 61, .st 457), (63, 90, .st 457), (95, 95, .st 457),
     (97, 122, .st 457), (126, 126, .st 457), (128, 255, .st 457)],
  /- 458 -/ [(33, 33, .st 455), (35, 35, .st 453), (36, 36, .st 455), (37, 37, .st 5),
     (38, 46, .st 455), (47, 47, .st 459), (48, 59, .st 455), (61, 61, .st 455),
     (63, 63, .st 456), (64, 90, .st 455), (95, 95, .st 455), (97, 122, .st 455),
     (126, 126, .st 455), (128, 255, .st 455)],
  /- 459 -/ [(2, 2, .tr 472), (33, 33, .tr 473), (35, 35, .tr 474), (36, 36, .tr 473),
     (37, 37, .tr 475), (38, 46, .tr 473), (47, 47, .tr 476), (48, 48, .tr 477),
     (49, 49, .tr 478), (50, 50, .tr 479), (51, 57, .tr 480), (58, 58, .tr 481),
     (59, 59, .tr 473), (61, 61, .tr 473), (63, 63, .tr 482), (64, 64, .tr 483),
     (65, 90, .tr 473), (91, 91, .tr 484), (95, 95, .tr 473), (97, 122, .tr 473),
     (126, 126, .tr 473)],
  /- 460 -/ [(35, 35, .tr 485), (47, 47, .tr 486), (58, 58, .tr 487), (63, 63, .tr 488)],
  /- 461 -/ [(35, 35, .tr 489), (47, 47, .tr 490), (48, 57, .tr 491), (63, 63, .tr 492)],
  /- 462 -/ [(35, 35, .tr 493), (47, 47, .tr 494), (48, 57, .st 462), (63, 63, .tr 496)],
  /- 463 -/ [(35, 35, .tr 485), (47, 47, .tr 486), (48, 57, .st 464), (58, 58, .tr 487),
     (63, 63, .tr 488)],
  /- 464 -/ [(35, 35, .tr 485), (47, 47, .tr 486), (48, 57, .st 460), (58, 58, .tr 487),
     (63, 63, .tr 488)],
  /- 465 -/ [(35, 35, .tr 485), (47, 47, .tr 486), (48, 52, .st 460), (53, 53, .st 466),
     (54, 57, .st 460), (58, 58, .tr 487), (63, 63, .tr 488)],
  /- 466 -/ [(35, 35, .tr 485), (47, 47, .tr 486), (48, 53, .st 460), (58, 58, .tr 487),
     (63, 63, .tr 488)],
  /- 467 -/ [(33, 33, .st 467), (35, 35, .tr 485), (36, 36, .st 467), (37, 37, .st 31),
     (38, 46, .st 467), (47, 47, .tr 486), (48, 57, .st 467), (58, 58, .tr 499),
     (59, 59, .st 467), (61, 61, .st 467), (63, 63, .tr 488), (64, 64, .tr 38),
     (65, 90, .st 467), (95, 95, .st 467), (97, 122, .st 467), (126, 126, .st 467)],
  /- 468 -/ [(33, 33, .st 33), (35, 35, .tr 489), (36, 36, .st 33), (37, 37, .st 34),
     (38, 46, .st 33), (47, 47, .tr 490), (48, 57, .tr 500), (58, 59, .st 33), (61, 61, .st 33),
     (63, 63, .tr 492), (64, 64, .tr 38), (65, 90, .st 33), (95, 95, .st 33), (97, 122, .st 33),
     (126, 126, .st 33)],
  /- 469 -/ [(2, 2, .tr 472), (33, 33, .tr 501), (35, 35, .tr 474), (36, 36, .tr 501),
     (37, 37, .tr 502), (38, 46, .tr 501), (47, 47, .tr 476), (48, 48, .tr 503),
     (49, 49, .tr 504), (50, 50, .tr 505), (51, 57, .tr 506), (58, 58, .tr 507),
     (59, 59, .tr 501), (61, 61, .tr 501), (63, 63, .tr 482), (65, 90, .tr 501),
     (91, 91, .tr 484), (95, 95, .tr 501), (97, 122, .tr 501), (126, 126, .tr 501)],
  /- 470 -/ [(33, 33, .st 470), (35, 35, .tr 485), (36, 36, .st 470), (37, 37, .st 36),
     (38, 46, .st 470), (47, 47, .tr 486), (48, 57, .st 470), (58, 58, .tr 487),
     (59, 59, .st 470), (61, 61, .st 470), (63, 63, .tr 488), (65, 90, .st 470),
     (95, 95, .st 470), (97, 122, .st 470), (126, 126, .st 470)],
  /- 471 -/ [(33, 33, .st 470), (35, 35, .tr 485), (36, 36, .st 470), (37, 37, .st 36),
     (38, 45, .st 470), (46, 46, .st 472), (47, 47, .tr 486), (48, 57, .st 470),
     (58, 58, .tr 487), (59, 59, .st 470), (61, 61, .st 470), (63, 63, .tr 488),
     (65, 90, .st 470), (95, 95, .st 470), (97, 122, .st 470), (126, 126, .st 470)],
  /- 472 -/ [(2, 2, .st 13), (33, 33, .st 470), (35, 35, .tr 485), (36, 36, .st 470),
     (37, 37, .st 36), (38, 46, .st 470), (47, 47, .tr 486), (48, 48, .st 473),
     (49, 49, .st 481), (50, 50, .st 483), (51, 57, .st 482), (58, 58, .tr 487),
     (59, 59, .st 470), (61, 61, .st 470), (63, 63, .tr 488), (65, 90, .st 470),
     (95, 95, .st 470), (97, 122, .st 470), (126, 126, .st 470)],
  /- 473 -/ [(33, 33, .st 470), (35, 35, .tr 485), (36, 36, .st 470), (37, 37, .st 36),
     (38, 45, .st 470), (46, 46, .st 474), (47, 47, .tr 486), (48, 57, .st 470),
     (58, 58, .tr 487), (59, 59, .st 470), (61, 61, .st 470), (63, 63, .tr 488),
     (65, 90, .st 470), (95, 95, .st 470), (97, 122, .st 470), (126, 126, .st 470)],
  /- 474 -/ [(2, 2, .st 17), (33, 33, .st 470), (35, 35, .tr 485), (36, 36, .st 470),
     (37, 37, .st 36), (38, 46, .st 470), (47, 47, .tr 486), (48, 48, .st 475),
     (49, 49, .st 477), (50, 50, .st 479), (51, 57, .st 478), (58, 58, .tr 487),
     (59, 59, .st 470), (61, 61, .st 470), (63, 63, .tr 488), (65, 90, .st 470),
     (95, 95, .st 470), (97, 122, .st 470), (126, 126, .st 470)],
  /- 475 -/ [(33, 33, .st 470), (35, 35, .tr 485), (36, 36, .st 470), (37, 37, .st 36),
     (38, 45, .st 470), (46, 46, .st 476), (47, 47, .tr 486), (48, 57, .st 470),
     (58, 58, .tr 487), (59, 59, .st 470), (61, 61, .st 470), (63, 63, .tr 488),
     (65, 90, .st 470), (95, 95, .st 470), (97, 122, .st 470), (126, 126, .st 470)],
  /- 476 -/ [(2, 2, .st 21), (33, 33, .st 470), (35, 35, .tr 485), (36, 36, .st 470),
     (37, 37, .st 36), (38, 46, .st 470), (47, 47, .tr 486), (48, 57, .st 470),
     (58, 58, .tr 487), (59, 59, .st 470), (61, 61, .st 470), (63, 63, .tr 488),
     (65, 90, .st 470), (95, 95, .st 470), (97, 122, .st 470), (126, 126, .st 470)],
  /- 477 -/ [(33, 33, .st 470), (35, 35, .tr 485), (36, 36, .st 470), (37, 37, .st 36),
     (38, 45, .st 470), (46, 46, .st 476), (47, 47, .tr 486), (48, 57, .st 478),
     (58, 58, .tr 487), (59, 59, .st 470), (61, 61, .st 470), (63, 63, .tr 488),
     (65, 90, .st 470), (95, 95, .st 470), (97, 122, .st 470), (126, 126, .st 470)],
  /- 478 -/ [(33, 33, .st 470), (35, 35, .tr 485), (36, 36, .st 470), (37, 37, .st 36),
     (38, 45, .st 470), (46, 46, .st 476), (47, 47, .tr 486), (48, 57, .st 475),
     (58, 58, .tr 487), (59, 59, .st 470), (61, 61, .st 470), (63, 63, .tr 488),
     (65, 90, .st 470), (95, 95, .st 470), (97, 122, .st 470), (126, 126, .st 470)],
  /- 479 -/ [(33, 33, .st 470), (35, 35, .tr 485), (36, 36, .st 470), (37, 37, .st 36),
     (38, 45, .st 470), (46, 46, .st 476), (47, 47, .tr 486), (48, 52, .st 475),
     (53, 53, .st 480), (54, 57, .st 475), (58, 58, .tr 487), (59, 59, .st 470),
     (61, 61, .st 470), (63, 63, .tr 488), (65, 90, .st 470), (95, 95, .st 470),
     (97, 122, .st 470), (126, 126, .st 470)]]

def rows6 : List (Row Goto) := [
  /- 480 -/ [(33, 33, .st 470), (35, 35, .tr 485), (36, 36, .st 470), (37, 37, .st 36),
     (38, 45, .st 470), (46, 46, .st 476), (47, 47, .tr 486), (48, 53, .st 475),
     (54, 57, .st 470), (58, 58, .tr 487), (59, 59, .st 470), (61, 61, .st 470),
     (63, 63, .tr 488), (65, 90, .st 470), (95, 95, .st 470), (97, 122, .st 470),
     (126, 126, .st 470)],
  /- 481 -/ [(33, 33, .st 470), (35, 35, .tr 485), (36, 36, .st 470), (37, 37, .st 36),
     (38, 45, .st 470), (46, 46, .st 474), (47, 47, .tr 486), (48, 57, .st 482),
     (58, 58, .tr 487), (59, 59, .st 470), (61, 61, .st 470), (63, 63, .tr 488),
     (65, 90, .st 470), (95, 95, .st 470), (97, 122, .st 470), (126, 126, .st 470)],
  /- 482 -/ [(33, 33, .st 470), (35, 35, .tr 485), (36, 36, .st 470), (37, 37, .st 36),
     (38, 45, .st 470), (46, 46, .st 474), (47, 47, .tr 486), (48, 57, .st 473),
     (58, 58, .tr 487), (59, 59, .st 470), (61, 61, .st 470), (63, 63, .tr 488),
     (65, 90, .st 470), (95, 95, .st 470), (97, 122, .st 470), (126, 126, .st 470)],
  /- 483 -/ [(33, 33, .st 470), (35, 35, .tr 485), (36, 36, .st 470), (37, 37, .st 36),
     (38, 45, .st 470), (46, 46, .st 474), (47, 47, .tr 486), (48, 52, .st 473),
     (53, 53, .st 484), (54, 57, .st 473), (58, 58, .tr 487), (59, 59, .st 470),
     (61, 61, .st 470), (63, 63, .tr 488), (65, 90, .st 470), (95, 95, .st 470),
     (97, 122, .st 470), (126, 126, .st 470)],
  /- 484 -/ [(33, 33, .st 470), (35, 35, .tr 485), (36, 36, .st 470), (37, 37, .st 36),
     (38, 45, .st 470), (46, 46, .st 474), (47, 47, .tr 486), (48, 53, .st 473),
     (54, 57, .st 470), (58, 58, .tr 487), (59, 59, .st 470), (61, 61, .st 470),
     (63, 63, .tr 488), (65, 90, .st 470), (95, 95, .st 470), (97, 122, .st 470),
     (126, 126, .st 470)],
  /- 485 -/ [(33, 33, .st 470), (35, 35, .tr 485), (36, 36, .st 470), (37, 37, .st 36),
     (38, 45, .st 470), (46, 46, .st 472), (47, 47, .tr 486), (48, 57, .st 486),
     (58, 58, .tr 487), (59, 59, .st 470), (61, 61, .st 470), (63, 63, .tr 488),
     (65, 90, .st 470), (95, 95, .st 470), (97, 122, .st 470), (126, 126, .st 470)],
  /- 486 -/ [(33, 33, .st 470), (35, 35, .tr 485), (36, 36, .st 470), (37, 37, .st 36),
     (38, 45, .st 470), (46, 46, .st 472), (47, 47, .tr 486), (48, 57, .st 471),
     (58, 58, .tr 487), (59, 59, .st 470), (61, 61, .st 470), (63, 63, .tr 488),
     (65, 90, .st 470), (95, 95, .st 470), (97, 122, .st 470), (126, 126, .st 470)],
  /- 487 -/ [(33, 33, .st 470), (35, 35, .tr 485), (36, 36, .st 470), (37, 37, .st 36),
     (38, 45, .st 470), (46, 46, .st 472), (47, 47, .tr 486), (48, 52, .st 471),
     (53, 53, .st 488), (54, 57, .st 471), (58, 58, .tr 487), (59, 59, .st 470),
     (61, 61, .st 470), (63, 63, .tr 488), (65, 90, .st 470), (95, 95, .st 470),
     (97, 122, .st 470), (126, 126, .st 470)],
  /- 488 -/ [(33, 33, .st 470), (35, 35, .tr 485), (36, 36, .st 470), (37, 37, .st 36),
     (38, 45, .st 470), (46, 46, .st 472), (47, 47, .tr 486), (48, 53, .st 471),
     (54, 57, .st 470), (58, 58, .tr 487), (59, 59, .st 470), (61, 61, .st 470),
     (63, 63, .tr 488), (65, 90, .st 470), (95, 95, .st 470), (97, 122, .st 470),
     (126, 126, .st 470)],
  /- 489 -/ [(33, 33, .st 33), (35, 35, .tr 493), (36, 36, .st 33), (37, 37, .st 34),
     (38, 46, .st 33), (47, 47, .tr 494), (48, 57, .st 489), (58, 59, .st 33), (61, 61, .st 33),
     (63, 63, .tr 496), (64, 64, .tr 38), (65, 90, .st 33), (95, 95, .st 33), (97, 122, .st 33),
     (126, 126, .st 33)],
  /- 490 -/ [(33, 33, .st 467), (35, 35, .tr 485), (36, 36, .st 467), (37, 37, .st 31),
     (38, 45, .st 467), (46, 46, .st 491), (47, 47, .tr 486), (48, 57, .st 467),
     (58, 58, .tr 499), (59, 59, .st 467), (61, 61, .st 467), (63, 63, .tr 488),
     (64, 64, .tr 38), (65, 90, .st 467), (95, 95, .st 467), (97, 122, .st 467),
     (126, 126, .st 467)],
  /- 491 -/ [(2, 2, .st 13), (33, 33, .st 467), (35, 35, .tr 485), (36, 36, .st 467),
     (37, 37, .st 31), (38, 46, .st 467), (47, 47, .tr 486), (48, 48, .st 492),
     (49, 49, .st 500), (50, 50, .st 502), (51, 57, .st 501), (58, 58, .tr 499),
     (59, 59, .st 467), (61, 61, .st 467), (63, 63, .tr 488), (64, 64, .tr 38),
     (65, 90, .st 467), (95, 95, .st 467), (97, 122, .st 467), (126, 126, .st 467)],
  /- 492 -/ [(33, 33, .st 467), (35, 35, .tr 485), (36, 36, .st 467), (37, 37, .st 31),
     (38, 45, .st 467), (46, 46, .st 493), (47, 47, .tr 486), (48, 57, .st 467),
     (58, 58, .tr 499), (59, 59, .st 467), (61, 61, .st 467), (63, 63, .tr 488),
     (64, 64, .tr 38), (65, 90, .st 467), (95, 95, .st 467), (97, 122, .st 467),
     (126, 126, .st 467)],
  /- 493 -/ [(2, 2, .st 17), (33, 33, .st 467), (35, 35, .tr 485), (36, 36, .st 467),
     (37, 37, .st 31), (38, 46, .st 467), (47, 47, .tr 486), (48, 48, .st 494),
     (49, 49, .st 496), (50, 50, .st 498), (51, 57, .st 497), (58, 58, .tr 499),
     (59, 59, .st 467), (61, 61, .st 467), (63, 63, .tr 488), (64, 64, .tr 38),
     (65, 90, .st 467), (95, 95, .st 467), (97, 122, .st 467), (126, 126, .st 467)],
  /- 494 -/ [(33, 33, .st 467), (35, 35, .tr 485), (36, 36, .st 467), (37, 37, .st 31),
     (38, 45, .st 467), (46, 46, .st 495), (47, 47, .tr 486), (48, 57, .st 467),
     (58, 58, .tr 499), (59, 59, .st 467), (61, 61, .st 467), (63, 63, .tr 488),
     (64, 64, .tr 38), (65, 90, .st 467), (95, 95, .st 467), (97, 122, .st 467),
     (126, 126, .st 467)],
  /- 495 -/ [(2, 2, .st 21), (33, 33, .st 467), (35, 35, .tr 485), (36, 36, .st 467),
     (37, 37, .st 31), (38, 46, .st 467), (47, 47, .tr 486), (48, 57, .st 467),
     (58, 58, .tr 499), (59, 59, .st 467), (61, 61, .st 467), (63, 63, .tr 488),
     (64, 64, .tr 38), (65, 90, .st 467), (95, 95, .st 467), (97, 122, .st 467),
     (126, 126, .st 467)],
  /- 496 -/ [(33, 33, .st 467), (35, 35, .tr 485), (36, 36, .st 467), (37, 37, .st 31),
     (38, 45, .st 467), (46, 46, .st 495), (47, 47, .tr 486), (48, 57, .st 497),
     (58, 58, .tr 499), (59, 59, .st 467), (61, 61, .st 467), (63, 63, .tr 488),
     (64, 64, .tr 38), (65, 90, .st 467), (95, 95, .st 467), (97, 122, .st 467),
     (126, 126, .st 467)],
  /- 497 -/ [(33, 33, .st 467), (35, 35, .tr 485), (36, 36, .st 467), (37, 37, .st 31),
     (38, 45, .st 467), (46, 46, .st 495), (47, 47, .tr 486), (48, 57, .st 494),
     (58, 58, .tr 499), (59, 59, .st 467), (61, 61, .st 467), (63, 63, .tr 488),
     (64, 64, .tr 38), (65, 90, .st 467), (95, 95, .st 467), (97, 122, .st 467),
     (126, 126, .st 467)],
  /- 498 -/ [(33, 33, .st 467), (35, 35, .tr 485), (36, 36, .st 467), (37, 37, .st 31),
     (38, 45, .st 467), (46, 46, .st 495), (47, 47, .tr 486), (48, 52, .st 494),
     (53, 53, .st 499), (54, 57, .st 494), (58, 58, .tr 499), (59, 59, .st 467),
     (61, 61, .st 467), (63, 63, .tr 488), (64, 64, .tr 38), (65, 90, .st 467),
     (95, 95, .st 467), (97, 122, .st 467), (126, 126, .st 467)],
  /- 499 -/ [(33, 33, .st 467), (35, 35, .tr 485), (36, 36, .st 467), (37, 37, .st 31),
     (38, 45, .st 467), (46, 46, .st 495), (47, 47, .tr 486), (48, 53, .st 494),
     (54, 57, .st 467), (58, 58, .tr 499), (59, 59, .st 467), (61, 61, .st 467),
     (63, 63, .tr 488), (64, 64, .tr 38), (65, 90, .st 467), (95, 95, .st 467),
     (97, 122, .st 467), (126, 126, .st 467)],
  /- 500 -/ [(33, 33, .st 467), (35, 35, .tr 485), (36, 36, .st 467), (37, 37, .st 31),
     (38, 45, .st 467), (46, 46, .st 493), (47, 47, .tr 486), (48, 57, .st 501),
     (58, 58, .tr 499), (59, 59, .st 467), (61, 61, .st 467), (63, 63, .tr 488),
     (64, 64, .tr 38), (65, 90, .st 467), (95, 95, .st 467), (97, 122, .st 467),
     (126, 126, .st 467)],
  /- 501 -/ [(33, 33, .st 467), (35, 35, .tr 485), (36, 36, .st 467), (37, 37, .st 31),
     (38, 45, .st 467), (46, 46, .st 493), (47, 47, .tr 486), (48, 57, .st 492),
     (58, 58, .tr 499), (59, 59, .st 467), (61, 61, .st 467), (63, 63, .tr 488),
     (64, 64, .tr 38), (65, 90, .st 467), (95, 95, .st 467), (97, 122, .st 467),
     (126, 126, .st 467)],
  /- 502 -/ [(33, 33, .st 467), (35, 35, .tr 485), (36, 36, .st 467), (37, 37, .st 31),
     (38, 45, .st 467), (46, 46, .st 493), (47, 47, .tr 486), (48, 52, .st 492),
     (53, 53, .st 503), (54, 57, .st 492), (58, 58, .tr 499), (59, 59, .st 467),
     (61, 61, .st 467), (63, 63, .tr 488), (64, 64, .tr 38), (65, 90, .st 467),
     (95, 95, .st 467), (97, 122, .st 467), (126, 126, .st 467)],
  /- 503 -/ [(33, 33, .st 467), (35, 35, .tr 485), (36, 36, .st 467), (37, 37, .st 31),
     (38, 45, .st 467), (46, 46, .st 493), (47, 47, .tr 486), (48, 53, .st 492),
     (54, 57, .st 467), (58, 58, .tr 499), (59, 59, .st 467), (61, 61, .st 467),
     (63, 63, .tr 488), (64, 64, .tr 38), (65, 90, .st 467), (95, 95, .st 467),
     (97, 122, .st 467), (126, 126, .st 467)],
  /- 504 -/ [(33, 33, .st 467), (35, 35, .tr 485), (36, 36, .st 467), (37, 37, .st 31),
     (38, 45, .st 467), (46, 46, .st 491), (47, 47, .tr 486), (48, 57, .st 505),
     (58, 58, .tr 499), (59, 59, .st 467), (61, 61, .st 467), (63, 63, .tr 488),
     (64, 64, .tr 38), (65, 90, .st 467), (95, 95, .st 467), (97, 122, .st 467),
     (126, 126, .st 467)],
  /- 505 -/ [(33, 33, .st 467), (35, 35, .tr 485), (36, 36, .st 467), (37, 37, .st 31),
     (38, 45, .st 467), (46, 46, .st 491), (47, 47, .tr 486), (48, 57, .st 490),
     (58, 58, .tr 499), (59, 59, .st 467), (61, 61, .st 467), (63, 63, .tr 488),
     (64, 64, .tr 38), (65, 90, .st 467), (95, 95, .st 467), (97, 122, .st 467),
     (126, 126, .st 467)],
  /- 506 -/ [(33, 33, .st 467), (35, 35, .tr 485), (36, 36, .st 467), (37, 37, .st 31),
     (38, 45, .st 467), (46, 46, .st 491), (47, 47, .tr 486), (48, 52, .st 490),
     (53, 53, .st 507), (54, 57, .st 490), (58, 58, .tr 499), (59, 59, .st 467),
     (61, 61, .st 467), (63, 63, .tr 488), (64, 64, .tr 38), (65, 90, .st 467),
     (95, 95, .st 467), (97, 122, .st 467), (126, 126, .st 467)],
  /- 507 -/ [(33, 33, .st 467), (35, 35, .tr 485), (36, 36, .st 467), (37, 37, .st 31),
     (38, 45, .st 467), (46, 46, .st 491), (47, 47, .tr 486), (48, 53, .st 490),
     (54, 57, .st 467), (58, 58, .tr 499), (59, 59, .st 467), (61, 61, .st 467),
     (63, 63, .tr 488), (64, 64, .tr 38), (65, 90, .st 467), (95, 95, .st 467),
     (97, 122, .st 467), (126, 126, .st 467)],
  /- 508 -/ [(33, 33, .st 452), (35, 35, .st 453), (36, 36, .st 452), (37, 37, .st 3),
     (38, 42, .st 452), (43, 43, .st 508), (44, 44, .st 452), (45, 46, .st 508),
     (47, 47, .st 455), (48, 57, .st 508), (58, 58, .tr 543), (59, 59, .st 452),
     (61, 61, .st 452), (63, 63, .st 456), (64, 64, .st 452), (65, 90, .st 508),
     (95, 95, .st 452), (97, 122, .st 508), (126, 126, .st 452), (128, 255, .st 452)],
  /- 509 -/ [(33, 33, .st 455), (35, 35, .st 453), (36, 36, .st 455), (37, 37, .st 5),
     (38, 46, .st 455), (47, 47, .st 510), (48, 59, .st 455), (61, 61, .st 455),
     (63, 63, .st 456), (64, 90, .st 455), (95, 95, .st 455), (97, 122, .st 455),
     (126, 126, .st 455), (128, 255, .st 455)],
  /- 510 -/ [(33, 33, .st 455), (35, 35, .st 453), (36, 36, .st 455), (37, 37, .st 5),
     (38, 46, .st 455), (47, 47, .st 511), (48, 59, .st 455), (61, 61, .st 455),
     (63, 63, .st 456), (64, 90, .st 455), (95, 95, .st 455), (97, 122, .st 455),
     (126, 126, .st 455), (128, 255, .st 455)],
  /- 511 -/ [(2, 2, .tr 546), (33, 33, .tr 547), (35, 35, .tr 548), (36, 36, .tr 547),
     (37, 37, .tr 549), (38, 46, .tr 547), (47, 47, .tr 550), (48, 48, .tr 551),
     (49, 49, .tr 552), (50, 50, .tr 553), (51, 57, .tr 554), (58, 58, .tr 555),
     (59, 59, .tr 547), (61, 61, .tr 547), (63, 63, .tr 556), (64, 64, .tr 557),
     (65, 90, .tr 547), (91, 91, .tr 558), (95, 95, .tr 547), (97, 122, .tr 547),
     (126, 126, .tr 547)],
  /- 512 -/ [(35, 35, .tr 559), (47, 47, .tr 560), (58, 58, .tr 561), (63, 63, .tr 562)],
  /- 513 -/ [(33, 33, .st 513), (35, 35, .tr 563), (36, 36, .st 513), (37, 37, .st 243),
     (38, 59, .st 513), (61, 61, .st 513), (63, 63, .tr 565), (64, 90, .st 513),
     (95, 95, .st 513), (97, 122, .st 513), (126, 126, .st 513), (128, 255, .st 513)],
  /- 514 -/ [(35, 35, .tr 566), (47, 47, .tr 567), (48, 57, .tr 568), (63, 63, .tr 569)],
  /- 515 -/ [(35, 35, .tr 570), (47, 47, .tr 571), (48, 57, .st 515), (63, 63, .tr 573)],
  /- 516 -/ [(35, 35, .tr 559), (47, 47, .tr 560), (48, 57, .st 517), (58, 58, .tr 561),
     (63, 63, .tr 562)],
  /- 517 -/ [(35, 35, .tr 559), (47, 47, .tr 560), (48, 57, .st 512), (58, 58, .tr 561),
     (63, 63, .tr 562)],
  /- 518 -/ [(35, 35, .tr 559), (47, 47, .tr 560), (48, 52, .st 512), (53, 53, .st 519),
     (54, 57, .st 512), (58, 58, .tr 561), (63, 63, .tr 562)],
  /- 519 -/ [(35, 35, .tr 559), (47, 47, .tr 560), (48, 53, .st 512), (58, 58, .tr 561),
     (63, 63, .tr 562)],
  /- 520 -/ [(33, 33, .st 520), (35, 35, .tr 559), (36, 36, .st 520), (37, 37, .st 253),
     (38, 46, .st 520), (47, 47, .tr 560), (48, 57, .st 520), (58, 58, .tr 576),
     (59, 59, .st 520), (61, 61, .st 520), (63, 63, .tr 562), (64, 64, .tr 263),
     (65, 90, .st 520), (95, 95, .st 520), (97, 122, .st 520), (126, 126, .st 520)],
  /- 521 -/ [(33, 33, .st 255), (35, 35, .tr 566), (36, 36, .st 255), (37, 37, .st 256),
     (38, 46, .st 255), (47, 47, .tr 567), (48, 57, .tr 577), (58, 59, .st 255),
     (61, 61, .st 255), (63, 63, .tr 569), (64, 64, .tr 263), (65, 90, .st 255),
     (95, 95, .st 255), (97, 122, .st 255), (126, 126, .st 255)],
  /- 522 -/ [(2, 2, .tr 546), (33, 33, .tr 578), (35, 35, .tr 548), (36, 36, .tr 578),
     (37, 37, .tr 579), (38, 46, .tr 578), (47, 47, .tr 550), (48, 48, .tr 580),
     (49, 49, .tr 581), (50, 50, .tr 582), (51, 57, .tr 583), (58, 58, .tr 584),
     (59, 59, .tr 578), (61, 61, .tr 578), (63, 63, .tr 556), (65, 90, .tr 578),
     (91, 91, .tr 558), (95, 95, .tr 578), (97, 122, .tr 578), (126, 126, .tr 578)],
  /- 523 -/ [(33, 33, .st 523), (35, 35, .tr 559), (36, 36, .st 523), (37, 37, .st 258),
     (38, 46, .st 523), (47, 47, .tr 560), (48, 57, .st 523), (58, 58, .tr 561),
     (59, 59, .st 523), (61, 61, .st 523), (63, 63, .tr 562), (65, 90, .st 523),
     (95, 95, .st 523), (97, 122, .st 523), (126, 126, .st 523)],
  /- 524 -/ [(33, 33, .st 523), (35, 35, .tr 559), (36, 36, .st 523), (37, 37, .st 258),
     (38, 45, .st 523), (46, 46, .st 525), (47, 47, .tr 560), (48, 57, .st 523),
     (58, 58, .tr 561), (59, 59, .st 523), (61, 61, .st 523), (63, 63, .tr 562),
     (65, 90, .st 523), (95, 95, .st 523), (97, 122, .st 523), (126, 126, .st 523)],
  /- 525 -/ [(2, 2, .st 233), (33, 33, .st 523), (35, 35, .tr 559), (36, 36, .st 523),
     (37, 37, .st 258), (38, 46, .st 523), (47, 47, .tr 560), (48, 48, .st 526),
     (49, 49, .st 534), (50, 50, .st 536), (51, 57, .st 535), (58, 58, .tr 561),
     (59, 59, .st 523), (61, 61, .st 523), (63, 63, .tr 562), (65, 90, .st 523),
     (95, 95, .st 523), (97, 122, .st 523), (126, 126, .st 523)],
  /- 526 -/ [(33, 33, .st 523), (35, 35, .tr 559), (36, 36, .st 523), (37, 37, .st 258),
     (38, 45, .st 523), (46, 46, .st 527), (47, 47, .tr 560), (48, 57, .st 523),
     (58, 58, .tr 561), (59, 59, .st 523), (61, 61, .st 523), (63, 63, .tr 562),
     (65, 90, .st 523), (95, 95, .st 523), (97, 122, .st 523), (126, 126, .st 523)],
  /- 527 -/ [(2, 2, .st 237), (33, 33, .st 523), (35, 35, .tr 559), (36, 36, .st 523),
     (37, 37, .st 258), (38, 46, .st 523), (47, 47, .tr 560), (48, 48, .st 528),
     (49, 49, .st 530), (50, 50, .st 532), (51, 57, .st 531), (58, 58, .tr 561),
     (59, 59, .st 523), (61, 61, .st 523), (63, 63, .tr 562), (65, 90, .st 523),
     (95, 95, .st 523), (97, 122, .st 523), (126, 126, .st 523)],
  /- 528 -/ [(33, 33, .st 523), (35, 35, .tr 559), (36, 36, .st 523), (37, 37, .st 258),
     (38, 45, .st 523), (46, 46, .st 529), (47, 47, .tr 560), (48, 57, .st 523),
     (58, 58, .tr 561), (59, 59, .st 523), (61, 61, .st 523), (63, 63, .tr 562),
     (65, 90, .st 523), (95, 95, .st 523), (97, 122, .st 523), (126, 126, .st 523)],
  /- 529 -/ [(2, 2, .st 241), (33, 33, .st 523), (35, 35, .tr 559), (36, 36, .st 523),
     (37, 37, .st 258), (38, 46, .st 523), (47, 47, .tr 560), (48, 57, .st 523),
     (58, 58, .tr 561), (59, 59, .st 523), (61, 61, .st 523), (63, 63, .tr 562),
     (65, 90, .st 523), (95, 95, .st 523), (97, 122, .st 523), (126, 126, .st 523)],
  /- 530 -/ [(33, 33, .st 523), (35, 35, .tr 559), (36, 36, .st 523), (37, 37, .st 258),
     (38, 45, .st 523), (46, 46, .st 529), (47, 47, .tr 560), (48, 57, .st 531),
     (58, 58, .tr 561), (59, 59, .st 523), (61, 61, .st 523), (63, 63, .tr 562),
     (65, 90, .st 523), (95, 95, .st 523), (97, 122, .st 523), (126, 126, .st 523)],
  /- 531 -/ [(33, 33, .st 523), (35, 35, .tr 559), (36, 36, .st 523), (37, 37, .st 258),
     (38, 45, .st 523), (46, 46, .st 529), (47, 47, .tr 560), (48, 57, .st 528),
     (58, 58, .tr 561), (59, 59, .st 523), (61, 61, .st 523), (63, 63, .tr 562),
     (65, 90, .st 523), (95, 95, .st 523), (97, 122, .st 523), (126, 126, .st 523)],
  /- 532 -/ [(33, 33, .st 523), (35, 35, .tr 559), (36, 36, .st 523), (37, 37, .st 258),
     (38, 45, .st 523), (46, 46, .st 529), (47, 47, .tr 560), (48, 52, .st 528),
     (53, 53, .st 533), (54, 57, .st 528), (58, 58, .tr 561), (59, 59, .st 523),
     (61, 61, .st 523), (63, 63, .tr 562), (65, 90, .st 523), (95, 95, .st 523),
     (97, 122, .st 523), (126, 126, .st 523)],
  /- 533 -/ [(33, 33, .st 523), (35, 35, .tr 559), (36, 36, .st 523), (37, 37, .st 258),
     (38, 45, .st 523), (46, 46, .st 529), (47, 47, .tr 560), (48, 53, .st 528),
     (54, 57, .st 523), (58, 58, .tr 561), (59, 59, .st 523), (61, 61, .st 523),
     (63, 63, .tr 562), (65, 90, .st 523), (95, 95, .st 523), (97, 122, .st 523),
     (126, 126, .st 523)],
  /- 534 -/ [(33, 33, .st 523), (35, 35, .tr 559), (36, 36, .st 523), (37, 37, .st 258),
     (38, 45, .st 523), (46, 46, .st 527), (47, 47, .tr 560), (48, 57, .st 535),
     (58, 58, .tr 561), (59, 59, .st 523), (61, 61, .st 523), (63, 63, .tr 562),
     (65, 90, .st 523), (95, 95, .st 523), (97, 122, .st 523), (126, 126, .st 523)],
  /- 535 -/ [(33, 33, .st 523), (35, 35, .tr 559), (36, 36, .st 523), (37, 37, .st 258),
     (38, 45, .st 523), (46, 46, .st 527), (47, 47, .tr 560), (48, 57, .st 526),
     (58, 58, .tr 561), (59, 59, .st 523), (61, 61, .st 523), (63, 63, .tr 562),
     (65, 90, .st 523), (95, 95, .st 523), (97, 122, .st 523), (126, 126, .st 523)],
  /- 536 -/ [(33, 33, .st 523), (35, 35, .tr 559), (36, 36, .st 523), (37, 37, .st 258),
     (38, 45, .st 523), (46, 46, .st 527), (47, 47, .tr 560), (48, 52, .st 526),
     (53, 53, .st 537), (54, 57, .st 526), (58, 58, .tr 561), (59, 59, .st 523),
     (61, 61, .st 523), (63, 63, .tr 562), (65, 90, .st 523), (95, 95, .st 523),
     (97, 122, .st 523), (126, 126, .st 523)],
  /- 537 -/ [(33, 33, .st 523), (35, 35, .tr 559), (36, 36, .st 523), (37, 37, .st 258),
     (38, 45, .st 523), (46, 46, .st 527), (47, 47, .tr 560), (48, 53, .st 526),
     (54, 57, .st 523), (58, 58, .tr 561), (59, 59, .st 523), (61, 61, .st 523),
     (63, 63, .tr 562), (65, 90, .st 523), (95, 95, .st 523), (97, 122, .st 523),
     (126, 126, .st 523)],
  /- 538 -/ [(33, 33, .st 523), (35, 35, .tr 559), (36, 36, .st 523), (37, 37, .st 258),
     (38, 45, .st 523), (46, 46, .st 525), (47, 47, .tr 560), (48, 57, .st 539),
     (58, 58, .tr 561), (59, 59, .st 523), (61, 61, .st 523), (63, 63, .tr 562),
     (65, 90, .st 523), (95, 95, .st 523), (97, 122, .st 523), (126, 126, .st 523)],
  /- 539 -/ [(33, 33, .st 523), (35, 35, .tr 559), (36, 36, .st 523), (37, 37, .st 258),
     (38, 45, .st 523), (46, 46, .st 525), (47, 47, .tr 560), (48, 57, .st 524),
     (58, 58, .tr 561), (59, 59, .st 523), (61, 61, .st 523), (63, 63, .tr 562),
     (65, 90, .st 523), (95, 95, .st 523), (97, 122, .st 523), (126, 126, .st 523)],
  /- 540 -/ [(33, 33, .st 523), (35, 35, .tr 559), (36, 36, .st 523), (37, 37, .st 258),
     (38, 45, .st 523), (46, 46, .st 525), (47, 47, .tr 560), (48, 52, .st 524),
     (53, 53, .st 541), (54, 57, .st 524), (58, 58, .tr 561), (59, 59, .st 523),
     (61, 61, .st 523), (63, 63, .tr 562), (65, 90, .st 523), (95, 95, .st 523),
     (97, 122, .st 523), (126, 126, .st 523)],
  /- 541 -/ [(33, 33, .st 523), (35, 35, .tr 559), (36, 36, .st 523), (37, 37, .st 258),
     (38, 45, .st 523), (46, 46, .st 525), (47, 47, .tr 560), (48, 53, .st 524),
     (54, 57, .st 523), (58, 58, .tr 561), (59, 59, .st 523), (61, 61, .st 523),
     (63, 63, .tr 562), (65, 90, .st 523), (95, 95, .st 523), (97, 122, .st 523),
     (126, 126, .st 523)],
  /- 542 -/ [(33, 33, .st 255), (35, 35, .tr 570), (36, 36, .st 255), (37, 37, .st 256),
     (38, 46, .st 255), (47, 47, .tr 571), (48, 57, .st 542), (58, 59, .st 255),
     (61, 61, .st 255), (63, 63, .tr 573), (64, 64, .tr 263), (65, 90, .st 255),
     (95, 95, .st 255), (97, 122, .st 255), (126, 126, .st 255)],
  /- 543 -/ [(33, 33, .st 520), (35, 35, .tr 559), (36, 36, .st 520), (37, 37, .st 253),
     (38, 45, .st 520), (46, 46, .st 544), (47, 47, .tr 560), (48, 57, .st 520),
     (58, 58, .tr 576), (59, 59, .st 520), (61, 61, .st 520), (63, 63, .tr 562),
     (64, 64, .tr 263), (65, 90, .st 520), (95, 95, .st 520), (97, 122, .st 520),
     (126, 126, .st 520)],
  /- 544 -/ [(2, 2, .st 233), (33, 33, .st 520), (35, 35, .tr 559), (36, 36, .st 520),
     (37, 37, .st 253), (38, 46, .st 520), (47, 47, .tr 560), (48, 48, .st 545),
     (49, 49, .st 553), (50, 50, .st 555), (51, 57, .st 554), (58, 58, .tr 576),
     (59, 59, .st 520), (61, 61, .st 520), (63, 63, .tr 562), (64, 64, .tr 263),
     (65, 90, .st 520), (95, 95, .st 520), (97, 122, .st 520), (126, 126, .st 520)],
  /- 545 -/ [(33, 33, .st 520), (35, 35, .tr 559), (36, 36, .st 520), (37, 37, .st 253),
     (38, 45, .st 520), (46, 46, .st 546), (47, 47, .tr 560), (48, 57, .st 520),
     (58, 58, .tr 576), (59, 59, .st 520), (61, 61, .st 520), (63, 63, .tr 562),
     (64, 64, .tr 263), (65, 90, .st 520), (95, 95, .st 520), (97, 122, .st 520),
     (126, 126, .st 520)],
  /- 546 -/ [(2, 2, .st 237), (33, 33, .st 520), (35, 35, .tr 559), (36, 36, .st 520),
     (37, 37, .st 253), (38, 46, .st 520), (47, 47, .tr 560), (48, 48, .st 547),
     (49, 49, .st 549), (50, 50, .st 551), (51, 57, .st 550), (58, 58, .tr 576),
     (59, 59, .st 520), (61, 61, .st 520), (63, 63, .tr 562), (64, 64, .tr 263),
     (65, 90, .st 520), (95, 95, .st 520), (97, 122, .st 520), (126, 126, .st 520)],
  /- 547 -/ [(33, 33, .st 520), (35, 35, .tr 559), (36, 36, .st 520), (37, 37, .st 253),
     (38, 45, .st 520), (46, 46, .st 548), (47, 47, .tr 560), (48, 57, .st 520),
     (58, 58, .tr 576), (59, 59, .st 520), (61, 61, .st 520), (63, 63, .tr 562),
     (64, 64, .tr 263), (65, 90, .st 520), (95, 95, .st 520), (97, 122, .st 520),
     (126, 126, .st 520)],
  /- 548 -/ [(2, 2, .st 241), (33, 33, .st 520), (35, 35, .tr 559), (36, 36, .st 520),
     (37, 37, .st 253), (38, 46, .st 520), (47, 47, .tr 560), (48, 57, .st 520),
     (58, 58, .tr 576), (59, 59, .st 520), (61, 61, .st 520), (63, 63, .tr 562),
     (64, 64, .tr 263), (65, 90, .st 520), (95, 95, .st 520), (97, 122, .st 520),
     (126, 126, .st 520)],
  /- 549 -/ [(33, 33, .st 520), (35, 35, .tr 559), (36, 36, .st 520), (37, 37, .st 253),
     (38, 45, .st 520), (46, 46, .st 548), (47, 47, .tr 560), (48, 57, .st 550),
     (58, 58, .tr 576), (59, 59, .st 520), (61, 61, .st 520), (63, 63, .tr 562),
     (64, 64, .tr 263), (65, 90, .st 520), (95, 95, .st 520), (97, 122, .st 520),
     (126, 126, .st 520)],
  /- 550 -/ [(33, 33, .st 520), (35, 35, .tr 559), (36, 36, .st 520), (37, 37, .st 253),
     (38, 45, .st 520), (46, 46, .st 548), (47, 47, .tr 560), (48, 57, .st 547),
     (58, 58, .tr 576), (59, 59, .st 520), (61, 61, .st 520), (63, 63, .tr 562),
     (64, 64, .tr 263), (65, 90, .st 520), (95, 95, .st 520), (97, 122, .st 520),
     (126, 126, .st 520)],
  /- 551 -/ [(33, 33, .st 520), (35, 35, .tr 559), (36, 36, .st 520), (37, 37, .st 253),
     (38, 45, .st 520), (46, 46, .st 548), (47, 47, .tr 560), (48, 52, .st 547),
     (53, 53, .st 552), (54, 57, .st 547), (58, 58, .tr 576), (59, 59, .st 520),
     (61, 61, .st 520), (63, 63, .tr 562), (64, 64, .tr 263), (65, 90, .st 520),
     (95, 95, .st 520), (97, 122, .st 520), (126, 126, .st 520)],
  /- 552 -/ [(33, 33, .st 520), (35, 35, .tr 559), (36, 36, .st 520), (37, 37, .st 253),
     (38, 45, .st 520), (46, 46, .st 548), (47, 47, .tr 560), (48, 53, .st 547),
     (54, 57, .st 520), (58, 58, .tr 576), (59, 59, .st 520), (61, 61, .st 520),
     (63, 63, .tr 562), (64, 64, .tr 263), (65, 90, .st 520), (95, 95, .st 520),
     (97, 122, .st 520), (126, 126, .st 520)],
  /- 553 -/ [(33, 33, .st 520), (35, 35, .tr 559), (36, 36, .st 520), (37, 37, .st 253),
     (38, 45, .st 520), (46, 46, .st 546), (47, 47, .tr 560), (48, 57, .st 554),
     (58, 58, .tr 576), (59, 59, .st 520), (61, 61, .st 520), (63, 63, .tr 562),
     (64, 64, .tr 263), (65, 90, .st 520), (95, 95, .st 520), (97, 122, .st 520),
     (126, 126, .st 520)],
  /- 554 -/ [(33, 33, .st 520), (35, 35, .tr 559), (36, 36, .st 520), (37, 37, .st 253),
     (38, 45, .st 520), (46, 46, .st 546), (47, 47, .tr 560), (48, 57, .st 545),
     (58, 58, .tr 576), (59, 59, .st 520), (61, 61, .st 520), (63, 63, .tr 562),
     (64, 64, .tr 263), (65, 90, .st 520), (95, 95, .st 520), (97, 122, .st 520),
     (126, 126, .st 520)],
  /- 555 -/ [(33, 33, .st 520), (35, 35, .tr 559), (36, 36, .st 520), (37, 37, .st 253),
     (38, 45, .st 520), (46, 46, .st 546), (47, 47, .tr 560), (48, 52, .st 545),
     (53, 53, .st 556), (54, 57, .st 545), (58, 58, .tr 576), (59, 59, .st 520),
     (61, 61, .st 520), (63, 63, .tr 562), (64, 64, .tr 263), (65, 90, .st 520),
     (95, 95, .st 520), (97, 122, .st 520), (126, 126, .st 520)],
  /- 556 -/ [(33, 33, .st 520), (35, 35, .tr 559), (36, 36, .st 520), (37, 37, .st 253),
     (38, 45, .st 520), (46, 46, .st 546), (47, 47, .tr 560), (48, 53, .st 545),
     (54, 57, .st 520), (58, 58, .tr 576), (59, 59, .st 520), (61, 61, .st 520),
     (63, 63, .tr 562), (64, 64, .tr 263), (65, 90, .st 520), (95, 95, .st 520),
     (97, 122, .st 520), (126, 126, .st 520)],
  /- 557 -/ [(33, 33, .st 520), (35, 35, .tr 559), (36, 36, .st 520), (37, 37, .st 253),
     (38, 45, .st 520), (46, 46, .st 544), (47, 47, .tr 560), (48, 57, .st 558),
     (58, 58, .tr 576), (59, 59, .st 520), (61, 61, .st 520), (63, 63, .tr 562),
     (64, 64, .tr 263), (65, 90, .st 520), (95, 95, .st 520), (97, 122, .st 520),
     (126, 126, .st 520)],
  /- 558 -/ [(33, 33, .st 520), (35, 35, .tr 559), (36, 36, .st 520), (37, 37, .st 253),
     (38, 45, .st 520), (46, 46, .st 544), (47, 47, .tr 560), (48, 57, .st 543),
     (58, 58, .tr 576), (59, 59, .st 520), (61, 61, .st 520), (63, 63, .tr 562),
     (64, 64, .tr 263), (65, 90, .st 520), (95, 95, .st 520), (97, 122, .st 520),
     (126, 126, .st 520)],
  /- 559 -/ [(33, 33, .st 520), (35, 35, .tr 559), (36, 36, .st 520), (37, 37, .st 253),
     (38, 45, .st 520), (46, 46, .st 544), (47, 47, .tr 560), (48, 52, .st 543),
     (53, 53, .st 560), (54, 57, .st 543), (58, 58, .tr 576), (59, 59, .st 520),
     (61, 61, .st 520), (63, 63, .tr 562), (64, 64, .tr 263), (65, 90, .st 520),
     (95, 95, .st 520), (97, 122, .st 520), (126, 126, .st 520)]]

def rows7 : List (Row Goto) := [
  /- 560 -/ [(33, 33, .st 520), (35, 35, .tr 559), (36, 36, .st 520), (37, 37, .st 253),
     (38, 45, .st 520), (46, 46, .st 544), (47, 47, .tr 560), (48, 53, .st 543),
     (54, 57, .st 520), (58, 58, .tr 576), (59, 59, .st 520), (61, 61, .st 520),
     (63, 63, .tr 562), (64, 64, .tr 263), (65, 90, .st 520), (95, 95, .st 520),
     (97, 122, .st 520), (126, 126, .st 520)]]

def rows : List (Row Goto) :=
  rows0 ++ (rows1 ++ (rows2 ++ (rows3 ++ (rows4 ++ (rows5 ++ (rows6 ++ rows7))))))

def follow : Goto → Step Nat Action
  | .st n => .next n []
  | .tr k => tr k

def step (s : Nat) (c : UInt8) : Step Nat Action :=
  match entryAt (rows.getD s []) c.toNat with
  | none   => .fail uri_parser_error
  | some g => follow g

/-- What `switch ( cs )` does where `p == eof`. -/
def eofRow : Row (List Action) :=
  [(453, 453, [marku, save_fragment]), (454, 454, [save_fragment]),
   (456, 456, [marku, save_query]), (457, 457, [save_query]), (459, 459, [markh, save_host]),
   (460, 460, [save_host]), (461, 461, [markh, save_port]), (462, 462, [save_port]),
   (463, 467, [save_host]), (468, 468, [markh, save_port]), (469, 469, [markh, save_host]),
   (470, 488, [save_host]), (489, 489, [save_port]), (490, 507, [save_host]),
   (511, 511, [markh, save_host, save_path]), (512, 512, [save_host, markh, save_path]),
   (513, 513, [save_path]), (514, 514, [markh, save_port, save_path]),
   (515, 515, [save_port, markh, save_path]), (516, 520, [save_host, markh, save_path]),
   (521, 521, [markh, save_port, save_path]), (522, 522, [markh, save_host, save_path]),
   (523, 541, [save_host, markh, save_path]), (542, 542, [save_port, markh, save_path]),
   (543, 560, [save_host, markh, save_path])]

def eofActions (s : Nat) : List Action := (entryAt eofRow s).getD []

end UriParser

end MNSER
