import CInspect.Text.Packed
/-!
The mathematical headers: real and complex functions and the floating-point environment, with the files that declare their function families.

Each entry is the full path of a header and its text, reduced to the
declarations and macros that programs can see.
-/

namespace CInspect.Includes

/-- The mathematical headers. -/
def mathematicsHeaders : List (String × String) := Text.unpackEntries <|
  String.join [
    "/usr/include/tgmath.h`~5!!#ifndef _TGMATH_H`#define~*!5\t1`~*!8_GLIBC_INTERNAL_STARTING_HEADER_IMPLEMENTATION`#~'%V <bits/libc-header-start.h>~%%U~-!Jfloatn.h>~",
    "+!<~&&?~,!5complex~&!i~)&K~)%|HAVE_BUILTIN~'&G __GNUC_PREREQ (8, 0)~%'*~0!=2, 7)~&!x ~%!B~%!uFLOAT128X`#  error \"Unsupported _Float128x type for <~((S>.\"`# en",
    "dif~&%!((~,%&64X && !~/%:)\t\t\\` ~%!!|| (~/!B~1!V64X))~7%qcombination of~%%us~<%v~)'u~'*31_NARROW_D(F, X~'%m(F ## l (~&%I~0!Y2~.!Y, Y~1!], Y~5!b3~1!b, Z)~2!d, ",
    "Z~5!g~)&+F64X~2&.f128~B&1~)!b~%&4~1!d~B&6~,!g~/&9~*!j~(&<if~1**`# ~;&T32~4&T64~(&S~;&T~(!b~0&T~%!d~(&S~;&T~+!g~0&T~(!j~(&S~&+'~-.!~..v``# ~1.B6 &&~)1NUSE (IEC_6",
    "0559_TYPES_EXT~%%x~,%y_F16_ARG(X) X~&(96,~%-?lse~;!Q~%!G~'-'~0%[32~X%[32~.%[32~;%[~)!Q~<%[64~X%[64~.%[64~;%[~)!Q~<%[~'1a~U(y28~/(z28~<(|~)!S~>)!X~Z)%X~0)&x~=)'X",
    "~F)(~Y%b64~/%b64~<%b~*!S~?),X~[)-X~1).x~>)/~2%f~41,FUNCS~*%&~%1,~%!.l,\t\t~(96~,// (X)~--a~+!4~&,7~+!4~'*f~%!5~,!r~')?~-!bX~2!c~)!6~4&5RC~&&7F, C)~/&M (F~2!6C~5",
    "!n1~&5M __builtin_~&:x (~3!z~95f~)5W~J!o, (~75s2STD~<!w~&5t, F, ~&:q,~>!w3~,6c~F%s\t\\`\t~%!!  ~)%*, (Z~6%/1C~%(X~A'q~')/ ~')0~9'v~)!u~A'z~/!x~+&/~+'7~4%2~(:*UN",
    "CS_F~%-,~)-!~C!T16(X)~0-L~N-:~0!b~f-;~.%u32~3%u~>%d~|%f~)%f64~1&w~;%P~f'(X~1%>~>!|~J'S`~>CY~(CV~&%L~;,A~.&,~>1<~.%-~&Hi~X%0~;0Z~1%5~%DK~_%7~;0j~)![16~X'[16~H'_~",
    "'%1~''b~X%3~E'c~*%8~''e~a%<~E'h32~X'h32~H'h32~Z'h~*%3~E'h~*%8~V'h~/%<~E'h64~X'h64~H'h~'%1~U'h~*%3~E'h~*%8~V'h~/%<~*'h~8Jq~3PG_C2X~0E*~:S4~R)aX~-(G~ISb~[%6~*(J~L",
    "T6~d%?~*(M~)HX~,Tr!~=(Mif~%ed_NO_LONG_DOUBLE_~%U>~-&Ctgml(fct) fct~6JB~-!G~%?c~+%h~)dY~'*L~-d&3, 1)~)!D~*!y~%eping_type(type~)'W(~*'Xclassify~%!J (__real__ (~&!",
    "V 0)) == 8~/(p~%!Jinteger~-%0~>%.~)%! == 1~/!|~'gP~5%&~N%(9~(>|~%-m~P&i~&%i~%(x~C(! (~(!e1.25) !~2&R~7'R~*!a(1.25 + _C~'''I)~S'G~%'F~A!y(1~/!8~,+:~,3%expr_is~%&",
    "7(E)~;(LE~%&s9)~/!h~&.e~%!H_if(T1, T2, E~%)J~'/9typeof__ (*(0 ? (~,!6~%!4T2 *) 0 : (void *) (E))) 0~%M1:~4!W1~2!W!~%!Y~%)d~)-W~0&%~%)%~%&*sub(T, E~&SJ~0&G (T, d",
    "ouble, E)~?!t(expr~/!p~-%9~.&=~-!0+~&!d~%&3,~%Mi ~&Mw ~0+f ~6!])~8&k~(*x~-&n1, E2, E3)~6(x~&OE~%(L~5)*~5(K1)~:)-~)!v~'&X~1*-~)!D~(!F? (~&(N~%%;~/!A~/%J2~+%J~(%0",
    ":~D%0~(-N ~,%9~<%83~(+2~'+6~?(D~&(t~,-5~6(k~J*E~*&_~G*B~.!V~12(~8!Z ~,!Z~41m~Q+_~)-62_bas~&'?1, expr2~0+[~&'(~/!] ~&!W)) 0 + ~9!E2~%'P~E-:~5%Y~8%W~,!_~+%Z~%+(  ",
    " ~-%e~2!P~>%h~)&=3~2%e~&!*3)~N'H~5%i~4'P~E!M3~)&7~2ERN_NOT~%i%DEF~1?'~.)z~1)u\t~64T^&%&H32x,~9*l ~.!s~&,0~%,.Generic (~''4 +~(&m, ~)%(: 1, default:~%/O~4&5~-*W~",
    "S&8~*3z~&-w~1!N~(1Y~,!W~&1Y~&1X~;,7~)''~(cX~%!X~,'4~)!l~;'8~)fN~2%[: 1~*!C~,'R,~+&O~o(?~*-1~6-,~Z(C~/.6 ~5%.,~E&P~(!-3~('+~((5~=&i~5IL~=-H~6=+~5-'~R,:~97m~K%.~A",
    "))~6&:~<(R~.ts~%)V~&1BDISTINCT~'S!6\t^-%1u~5!I32~C!H64~E!oX~E!p~D!I128~&hu^:%5GN or~(!.x^:%3V~.O|~-4s~1%C~Kz>if (^0%5Y~+(<~+&T~(!B~,R[~.!M!~96W~&%;~2zU128(arg_c",
    "omb, fct, ~%!2all~3Vmypes~%,:atible_p~*=w (+~)!p)~)1c128~&+m?~(Stf128~)%2 :~:%jLD~A%l(~i%m~&(4~U!plong~'EZ)~&Jv~O&eC~4(Rc~0&j~N(W~*Sr~6&q~'%y(~.Q!~+!R~(5V~'HF~4",
    "&K~-!G:~%&,~1!H)~'&s~+U8~V+T~|)f~P!p64x~|)dl)~Q&g~F)e~N&p~5!y~+?Q~+'+~(*!~|*q~5*q^(%2g^4%1S~C*w~5!V~E(o~4fp`^B%>j~0%9UNARY_REAL_ONLY(Val, Fct^+%0]1 (Fct, (Val~6",
    "n.~+!lRET~]!pBI~%!qFIRST~.%h1, Val2~&!z~'1S~(lJ~+%&1)~&!+2~I%/STD~F%3STD~:%6~8(F~9oi~'%X~g&a~)+V~<%2~|&d~?&dTER~+(BSECOND~7&rVal3~'*Z~-%e3~5%b~&!+3~7qI~(%G~A%9\t",
    "~Q%9~9(>~.&h~1-6~h%L~;.NIMAG~).J, Cf~1%/1C~'%0Cf~E/P~*!x~%!s~-/H~G!i~)%k~%'/REAL~q%t~2%._SAME~+&/~/%.~2&3~a/9~('I~,.&~5%I2~2&T~5/G~FxF~N5N~+tRextension~%eVsiz~'",
    "=5~%'3 == ~(!6~'Cx~)Qn~(RR~/;E~/puVal~%pw8)~1!]?~6]J~&%IFct~&!.~1![: ~<%y~%gI)~S%<##f~9%?~-;B (~%!K,~?!w, ~-YZ~&!<\t~2'h~;!m^'%!y~%3.~&!6)`~S:K~'>B~V)m~m)l~+)N\t",
    "~m)Q~.)5\t~J)8~+=U~1!X~I(H~H>%~G(R1~j(S1~S.E1~+.F~'&4)~A(v1~d.M1~..N~:%H~3)>1~;.U~'%'~,g6~,%/)~K.Y1~3.Z~)!n~I*<~9AJ~|*A~|*A~|*A~Z*A~X)3^M%6Q~RH6~B)R~'(a+~(;w >~",
    "1)Y~0)X^<%30~1!v== 8)~1(?~5-s~)!Z,~--?~)8<~3ke~.'w~0.?~U.B2~A!X~8)J~D7&~C-l\t|| ~-!W2~F!W~D.C~M!W2~N.y~1'Z~0*]~2/:~6'T~X%*~0.x~H..~ZQ.~|..~d..(^?%)0~'+X0~0.6+~9",
    "2D^&%*x~2&(~|-2~|-2~y-2~U(<~U(=~K-m~|%e~o.M~88X~[Z-~|.d~|8o~|8o~&'=~33U~o8t~'%3~|/j~|/j~|8y~E8y~*'X~|9&~*)z~6IH~Ien~Q-z~'!,3~4.+~[.)~+%%~')>~&.:\t~43&~A.A~)!t,~",
    "H.I3~-(*~-!X~'![~'%oFct,~4!z~W.k3~F!_~|.r~h.r~-!W3~|/N~E/N~M!W3~N0,~I(|~b02~L%5~908~YFB~Sq1~bV3~TV-~3cx~2(;~RUf~6cy~1%(~C[c~*t4~/)A~H:A))^0%NZ~Gta~C(]^*%,u~9ho~",
    "0+;~<(l~0!v~&(v~4-z^.%-b~(h(~+/,?^9%Qx~0o:~+!Y:~?!YCf~(!Z~=]+~;'=~(*I~|&P~+k;~P&S~)!_~<fWC~,kv\t~5Df~C%v,~Q!X~&wY~1!X~;r0~A'u ~14w~4%H~1n:~1!i:~G!i~&.(~&!7~=sO^",
    "0%&J~|.]~g.]^.%dP~7vP0~1*L^/%pX~*.+\t~w.+~n%w~4.1~65C~.&&~:N=~'%n~7-v~J&+\t~3&(,~7/P~K'9~1[*~-%3~4,Y~G7H^9%.=~|,p~|7Q~45!~)(,~*%)~;(5))~&K.^9%%[^0%rJ~O%%~,8:~?b",
    "M~|8>~e'=^8%'w~f'A~+9(^=%)%~-9+~28C~6/I\t~)%d~0!<~?%t^3%/-~y%6~&0U~y:4~Q(k~,!i~2:W~4%7:~l%7~/;(^m%;U~8!Z~)*v~&(S~%!a~KgI`~Aq|^;%<'~B4=~-041~0/O~&!.+ ~-!J~fgf~0%",
    "E~-,G\t~5%A~)h0~4ZiC~Lh/~7BS~0h3~.!X~%ZX~n!v~%*2~8!w^B%&;~..t~0kb~LF8~Be4~Lui~9F]~I%4~*.s~;'%~98O1~A<X~-]j~4+5~>!b~I,O~&=:~T!b2~(=y ~?:Y~2)s~+&%~T)m\t~6w:~+!E:~",
    "V%!~)=x~,)O~5_t~|&]~-&]~0x4~m&b~2y9~[bF^4&_H^5%Lu~)nj~498X~%96~3nl~&(J? ^*',_^,&&R: F~%!c^M&a/~X%p^*&;A^7%%aY~J&>~+%Z~*&A, Y)^P&b=~|&F~&&F~B!JZ~M&o~(&-~0&r, Z~-",
    "+U~.!!^F&Q2^I&4d^/&Rn32X_USE^&'0IX^(%rJ!^K%qUX^,%qN)^=%lw~>%D(~P%D~(6(^S%sc~%!f~&M&~)!e!^9&A&~'!V^.%cg^+'9v^;&'+^+&Zr^1&(]~')5~:1B^H&fE~g1E~))=~),7^/&&o ((X), F",
    ",~%!d~),C^('4>x~41s^+'61^C&]M^1&o1~|/W~T&v +^&&]3~%'!~%2)~4'&~32X^.'8N^C&a<~|2e~k2e~M'U + (Z~+'[~%2m~6'_~33I^1';G)~?-=^,&ku~|-=~i-=^('C'~A->^.&m7~|*3~|->~>->^+'",
    "EE~A-?^6&o+~|'/~|-?~n-?^.'H>^1':C!^i&qD~w-o~%;.~;<B~'-[~5'n~1.C~u7aX~|.D~O.D~C'L~)*x)~<'S~|8<^H&uV~|'e~g.y~L(3~&/0)~B(8~x8x~)DRl^2'%6~|C|~j9a~-8t~|CQ~|.m~B&L~|B",
    "z~|&U~i8[~37Y~nBA^6'aZ~I?U^9'a[~L=8^<'a]~|:?~i.N32x~X:A~29s~|9r~|/(~S'&~49s~|9D~|/b~j/b~W'_~09E~f8h~&]&~f8U^6'k|~H7;^9'k|~K5N^;'k|~0]0~'&t^6't%piler; you cannot",
    " use^+&dH\"`#~.e'^('x!acos(Val)^9%'O~%mP,~%!M, cacos)~+!fsin~G!fsin, casin~,!fta~H!fta~%!fta~0!f2~,oG^:&(]^.%N'~%!_)~+'.~I'-~&',~.'+~I'*~&')~.'(~I''~&'&~&'%~0)>",
    "h~J)?h~')Ah~/)Bh~J)Ch~')Dh~/(Zh~J)Fh~')Gh~/(Sh~I(Th~&(Uh~.(Vh~I(Wh~&(Xh~.(Yh~I(Zh~&([h~/(]exp~F!iexp, cexp~,'%fr~'!f~9,K^/&=+~.,Q~%!f~,!wld~a!w~%!f~-!wog~F&Ylog",
    ", clog~%!d^('G*USE_GNU^*(&*log10~I!x10~&!z10)~)3:~G!o~)&U~'!o)~*3:~+)5m1~F!i~%!N~/';1p~J%M~0'zb~I!ab)~.&*2~I&)2~/%B2~I%B2^*(2%^4&v_^&'M_EXT_C2X)~-%o~H(d~%!N)~-7",
    "|~(!lpow~C5a~)*L~),4pow, cpow~,&ssqrt~G0Hqrt, csqrt~,!ghypot~U7D~%!_~-2lb~<%Z~+'Bcb~&%S~,!ceil~G!ceil~-13ab~?8i^+%?G~%!ifab~%<!bs~-!oloor~F%R~%!N~-!bmod~U'lfmod",
    ")~,',nearbyin~G'q~)!R~-!kround~F!g~%!N~-!ctrunc~F!c~%!N)~-)Bremquo(^1%ju^(%CG^H&.R^2%kc,~'%*~-&&lr~='O^(%pa~(/zr~%'O~)!d~P!e~'!f~-%O~>(:~1%P~&(?~+%Q~O!gl~2),cop",
    "ysign~U+R~(!c~-4Yrf~G2frf)~,!Yc~I!Zc~*![tgamma~G+B~%!O~+'f~K!b~&!O~/,)~I.9~')v~;6aBFP~,6]~(;Fnextdown~H/L~&!Q~0!hup~J!fup~3<4nextafter~U*J~)!d)~-!wtowar~.2x~0/f",
    "^:&UU~2%1~&!v)~.0yaind~W&0~)!d~1B3MISC~*(1scalb~C%0~6&3~%!d~3(C~%!;n~[E-~&!g)~0!yln~P(B~7%)l~-%*i~>B7~/1[i~(B<~*9.dim~V9.dim~5.-SOC2X) && !~&%2d~+GJ~*)9fmax~Y)8",
    "fmax~%'+~*!tin~[!tin~(HM~Q%r~m%n~:%j~(Dj~*>:a~L;-~=:xf~%42~S3L~%8Reven~K>4eve~-3Nfromfp(^5&.b^.%aq^;&18~5&P~%%(~,%:u~|%;,~(%)~2&Tx~|&Ufpx~3&Vx~|&W~'%>~+Qq~N1K~%",
    "!R~*,F~C+>)~/.[mag~Y.amag~1.d~Z!v~%!b~<&E~&3)~/&9imum~Y&:imum~1&;~[!x~&!c~/!x~&%5_n~.%!~0*f~G&'_n~7&+~d%.~*!m~6&9~/)T~X&9~4*Z~h%.~*!m~9&9~3'I~Y&>~:(Y~h%7~.!r~6X",
    "scarg~HTx_SAME~(Ukarg~.i%nj~5!n~-hxnj~-!Xpro~C!Yproj~0Wii~')h~Q&0i~()W~(!preal~U!preal~'L-~I:y~+)gad~7Wl~*w3 (fadd~%!E~(!K~*!hd~C!hD (d~1!h~,%Tdiv~D%Tdiv~8%T~C!",
    "hD (d~1!h~-,sul~D%Tmul~8%T~C!hD (d~1!h~,%Tsub~D%Tsub~8%T~C!hD (d~1!h~-%T~2ec1~-%N~%eWVal~-%H~;!Y~%%B~*!Y~,%;~6E.^3%&) (ffma~,&0~'!Q~+%T~I!tD (d~7!t~E=]^+'em^3(y",
    "<6^+%j[f16~D.816 (~&!N~0)U~+!o~D-Q~'!o~3-U~+!o~D,l~'!o~3,p~+!o~D,,~'!o~3,0~,!o~<+E~(!i~,+I~+!c~5)s~08)3~0!u~9*v^3(tn^''nA~,%G32~D)S32 (~&!N~9&z32~D)S~'!o~<)S32~",
    "D)S~'!o~<)S32~D)S~'!o~<)S32~=)S~(!i~5)S32~P)S~'!u~R)S^&(vf^1)+W^/'q!128~-%r64~D*&64 (~&!N~9'K64~D*&~'!o~<*&64~D*&~'!o~<*&64~D*&~'!o~<*&64~=*&~(!i~5*&64~P*&~'!u~",
    "T/VX~.+Kx~F/XX~%+Ax~>/Zx~F/[~'!r~>/_x~F/a~'!r~>/cx~F/d~'!r~>/fx~?/g~(!l~7/ix~R/j~'!x~T/lX~1/m128~D/n~E*:64X~%+U~=*:64~E*:~)!r~>/t~E*:~)!r~>/w~E*:~)!r~>/z~>*:~*!",
    "l~70%~Q*:~)!x~B*:~.!+\x00^-)CZ^))A)^?)C[COMPLEX^,)C]~)!6^|)C_^:)C_mathdef^?)D!`__BEGIN_DECLS~,Op^1)C&^')A,~0!<97~+GM^*(;'^)&9+_~*(/~)Sz~%!=^*(;V~-S'^*&](\t^/%PI",
    "1.0iF~&qzu~%(EI~)!YI~+![~&&=~.q5ISOC11^'(1;~,&<4^&)EY~)&<CMPLX(x, y^,)&I~'&- (^)&3y(x),^*&4/(y^,)>r~%!kF~;!l~%(S~(!k~(!0~2!jL~;!j^,(-v~'!p~.!6~%!v~-KF^U)<p~-&N1",
    "6~;%d^'('t6~(%a~+!3~<%[^K)<p~-%[32~B%[32~.%[~%!3~<%[^K)<p~-%[64~B%[64~.%[~%!3~=(x^K(9H~.(y28~C(z28~/(|~%!4~>)!X~X)%X~D)&x~0)'x~B)(~W%b64~C%b64~/%b~&!4~?),X~Y)-~",
    "'%d~+tq~;)6x~1)7~0%n~.4,_MATHCALL(function, args^(&]uMATHDECL (_M~&0o~)5E,~/!V~/%!DECL~%88(type, ~/!R ~.%/_1~6!K;~8!L__CONCAT(_~*%Y)~:%Z~G%U~:&*~4&Y1~A&[extern^",
    "&)Ws~&!]_PRECNAME~)(C)~%!T __THROW~5%6~H'l~<&9~*%'~()F \t\t~&!-~/%C~*%uname)\tname~0<bcmathcalls.h>~':U\t~)%)~)!4~.!w`~6%U~%8r~D%T##f~l%W~%/%!(~*<B^3(z, &&~*<fL",
    "IBC^()77||~+=&LDBL~%BbAT~%J,~%C-~/!9 ~&=|~,))^-&Oz~F)k~.*yREDIRECT_NTH(~9+0~&!g~*!w)^*&(qL~'&i~(!pS_TO~)24_ABI == 1~:&8~0!9~-&M~%%!_TO~+,j~&,. ##~)%_ ## ieee^0)",
    "ZL~<'5lias~l'<~%!t~[0_~2%q~4&w~X2P~;!r~,QP~3.(~+C*~+!E~;./l`# ~=.0 ~-Fz~+,a^(%70~%RZ~S+'~(&a~M+;~w5h~Q.g~I4T^*%s_~&!*~I2'#^;(]8^2)m(6^.%A/~%22^)%<%~H=a~'(:~0;x~",
    "3+7~(!>\t__C~*rt~0!J\t\t~(I)~G+Zf~%!M~>+]~/%w~*!5~/'j~;&J~+B7~6(332~1(3~&J|~|(3~D(3~%qR~8(3~-!A~<(3~%!M~|(3~L(364~1(3~&MQ~|(3~D(364~;(3~-!A~<(3~%!M~|(3~L(3128^9",
    ")yZ~|(5~D0V~%;y~90W~-!B~=0X~%!N~|(8~N0YX~30ZX~|(8~J0[X~=0]x~J0_x~|(8~Q0a~2(8~'U2~|(8~F0c~<(864~I(8~&!N~|(8~O0fX~40g~|(:~L0hX~>0ix~K0j~|(=~6(=~,Bt~+Co~4!<~2!7~.!",
    "5CALL``__END~(oK~5rOfenv~BrLFENV~,rI~&!3~|rF~+rF~D!!~0rM~%&K~5rK~'OFint feclearexcept (int __~&!1s)~(Y[;~1!Yget~&!Iflag (f~&!0_t *__flagp, ~:!r~-!qraise~B%O^K%H",
    "J~-%,s~(%z~:%*~*d;~6!a~&&_const ~O&f~.!xtest~|&f~+%+~Y&)~,gF~0)lround^&)GC~)!V __attribute_pure__;~3'n~'!b~&%F~%!0ing_dire~'X1~,'W~4+;nv (fenv~&&Aenvp~/!X~-!Vho",
    "ld~((7~<!Z~1)mnv~*'_~I%<update~I!b~X)Zgetmode (femode~&%.mode~?&N~&!Y~(%k~:!b~+)|~'8t~B%v^)(zI~+dGFE_INVALID\t~4!C__SUPPORT_SNAN__~+orFE~%!7S_ALWAYS_SIGNAL\t1~,",
    ":c^.&=|~1&nenabl~C0z~0![dis~G!]~630~/-A~*'v~C7Qm^;*M]~(7R\t~&9v~)7R~(!3~|7R~*7R^,%*hlog~.)GGNUC__`# warning A macro call~'!Uwas already~)!awhen^)*N;~%!F~'%[d.~+",
    "!tThis will caus^&%-Uil^&*K%problems.~+(;~.8n~/&Ztypes^9%0J-vector^A%0N^5%0=3, ^,%SMHUGE_VAL^,'9ahuge_val ()^)%yu`^,%U&~)!Y1e10000~)aJ~,,uISOC99^(%;>~5%T~0!wF~4",
    "%Vf~&%W~1!Q~5&.~'&/^)&Zg~1%0~'&-f~5!x~'!AL~1d%^d%.[~(%2^&%QE~3&c16~'(A~5%?^R%.?~*%?32~5%?32~<%?^R%.!~*%?64~5%?64~<%?^S%-a~+(!^&'u9~2(%28~>(&X~]('X~7((x~>()~[%C6",
    "4~6%C64x~?(,X~_(-X~8(.~-%F~50+~F0,INFINITY~,%6inff~6/N~)!R~)/W~*t5~F%>NAN~,%9nanf (\"\"~*%;^-'hv~%!R0.0f / 0.0f~1pM^I&'4~C%lSNANF~/%ns~*%o~,!K~0!J~5!IL~0!Jl~*&g",
    "~02h~/qy^)%2V~HUG~,!Q(^.%BTGNU^''LR^2&(:^,%?w~%'%~.3Q~%''16~(&1~7&)32~|&)~B&)~.4:~%&)32~?&)64~|&)~B&)~.5!~%&)64~?&)128~|&*~C*6~.5f~&*728~B*8X~|&,~D*9X~3*:x~B*;~",
    "|&,~E*<~2&,~%72~A*>~|&-~F*?X~4*A~/&/~3Fbt-eval-method~(J!~28C~(F2~+5fFLT_EVAL_METHOD == 0^&%..~9!D16`typedef^&'[o~&!)_t;~)!:~&eT~'!*_t;^*%63~:%!~0!d~h%!2~)!d^+%",
    "1|~2%)~,!A~M%.3~*%/~(rW~i&233~1%'x~2%(~*!>~M%+64~/!h64~8%*64~O%)5~1!g~9&164~O&1128~/!i128~8%,128~P%,9~2!ix~;%-~0&7~&Bd^)',*known~8%A\"~1AU~:kGp-logb~%p<~:Q(FP_L",
    "OGB0_IS_MIN~+?pFP_I~%!>\t(-2147483647 -^&*:h~/Ds~6!Q)^0'iy~'%=NAN~:%?NAN~M%BNAN\t~*!Q~6QK~Cca~'%sWORDSIZE~'/&^,%:K~%&6NG_MAX 0x7f~&!!L~2%l~8!Of~,!W~3'<~6(WL~(()",
    "~.%&~9';~6!T~Q(_L~*(_~M%HNAN\t~-!T~;,1~4,3fas~*_k~Fhtenum`  @~%:,FP_INT_UPWARD =~+fP~-!<0~&:Z~.!9,~,!iDOWN~7!k~)!>1~.!m~(!;~-!oTOWARDZERO~3!q~+!A2~.!s~*!=~/!uNE",
    "ARESTFROM~9%!~0!H3~0%+~/!E~6%2~<%* 4~7!z,`  $;^8%ZlSIM~&hZ^+%M]^(%JA (_~%!>~&!I^,%OO^3%[V_VEC^+%[Zsuffix^(%F4^'%[f~)%< ^0%MO ~1!b)^,%FnC~%bR~7%-`^4%XGVEC^0%GA~.",
    "%f~c%e^4%J(~=%i^.%b)~-!O^:%b0,~7%+^C%Kd~4&l^:%K7~-!R^P%Pd~<%mCALLX~6&u, ~&yZ~0'%X~B'&~)!a~3'.X~<&V~)!_~O'7~-|__ (~'!l~_'O~7!z^L%e.~2)c^E%e6~'%V^U%e=~>+(~D%x`~5/",
    "/ALIAS~=!_^(%Ym~B)4~>0JREDIR~?%8to^A%[r~E0[~+!u^3%fl^F%hE,r)\t~)*v~'!4~0!UDECLARI^*(/K 1~:!G~%RjN  0~4uycalls-helper-~(&Ks^.+J.~.!Q^M%h=#^-%9<~0&1~9!C~&&-~;RT^4",
    "%;k^'%jv ~>(. ^'%;h##r~1!P~2()0~;!H~+(* ~N(+ ~<(, ~1(- ~7(. ~?(/ ~A(0 ^U%m3^+%cp^A%d8~-!__TEST`^+*lW~+!X~%m? ~3)o~'.k~&WQ__nldbl_^*'+9^((ef __x^-*76 __y)^'(RS^4",
    "%5=^&(lvconst__));~%%P~)%Q~,0'~0%S~.0D~+%[,~=%],^+*WH~1&B)^(&|'~;%t~'%W~)!z~8%X^)&1q~A%X^+'0>~F%J~.!q~8%Ol,~'(J^-&1k~;%]\t~L%Z~%)!~(M7^,*Gr^7%jn^E%iY~88q~E6q~)5",
    "4~0:N~%tw^S%tM~6+Y~-+v~:-L~d+t_~,+m_to_^'%u*)`~|+u~<-R~)!Y~M%Y~+9Adrem~'![ __^)'7'^)%wV~)!Mgamma~*!Nl~,!3`~S+I~1!:~%?)^/*ux~%'I^+%ul~)=+^>%yg ##~'!M~5!v_ALT~J!z",
    "f~.!w~I-_ ~=-a ~B-b~'&&~4Me~7%S~VCq~O%a_ALT (^'&%J~,%b^,*>Q~3=b^.%zU~G=il~&=i~F=j~F=k~5!IE~(1T ~%Cf ~P>9~<>:^+%|-~+><^9%XK~B>>~C>?^B&%q^Q&%r^.&%s^&&%r~0!7_ALT~T",
    "/s~d-z~KMS~o-a~FMT^1'vW^0%M9^a&&M^]&%3~+I%16~nI'1^-&]0~0&R~S./~-ji^D*aF~=Iy~(!t^R%f6~XJ)^3&FB^W&(,^]&&k~+)k32~|)k~1&R~|)k~|)k~|)k^T&)d^]&(H~+)k64~|)k~1&R~|)k~|)",
    "k~|)k^V&+A^_&*&~,5K28~|)o^7(mR~|)p~|)p~|)p^Q&,x^_&+[~-5Px~|)p~2&V~|)p~|)p~|)p^V&.U^_&-:~-5U~|)p~3&V~|)p~|)p~|)p^X&04^a&.q~.5Z~|)t~4&Z~|)u~|)u~n)u^a&1m~(Qd^E&2-^",
    "4%1;^'')EARGS_1 (_Marg_ __x)~A!R2~,!R, ~)!/y~B!a3~8!a~+!/z~<!mNORMA^&%0', n~%R4^'%Q6~'g7_Mret_~%Rd~8%U ##~&!b^7%),~,!U~&kk~&%>redir~=%F~0hZ~&!]~A%W^()U9~%%/~;'!",
    "~5%W^.%5c~.'O ~-'P^U'qF~('y^/%!&~&)*^6&a-~'%W~'12) f~&&gme~;|Gnarrow^.&<,ret~+.a~%%B~/.4~)%9~I&,^;&c;~9&1^(+iQ^7&kZ~2!l~%*-~8'(~=!T2~4!U~3&pR~%,6~4!s~:*T ~6*T~'",
    "i2~3!U^U&lV~D'4~'mD32~,(3^8&l1~7'H~A!k~|'[~F'[~(8*~|,p^|&jd~5(C~?!C2~|(>~A2R^4&o.~%0'~1/d~R0(d~n0(^(%+j~1!z~F,i~|00~|00~Q0064~f00~9!k~|'[~|00~|00~|00~|00~V00^e'",
    "k=^+)NN^2'ex~(Bs~*sD~/15~+mq~?=816~,,-f~>le~,*O~0*P~0*Q~9*R^8'T:~4&sX~U&tx~T&ux~|&v~U&v~&kR~O&u~.!X~F&t~>lh~|&s~:&s~T)n~&]9~Q&u~|)n~V&v~/7B~G&v~97z~;&v~?li~|&v~",
    ";&vX~V&wx~U&x~|)t~D&y^(&G|~F2b~/5u~Q2b~.Js~|2b~Y&v~:2b~:&u~E2b~/&t~|2b~Y&s~T)n~F2b~1&u~|)n~V&v~;2b~:&v~F2b~/&v~|2b~[&vX~V&wx~U&x~|)t~F&yX~M/hx~b/ix~|/j~j&vX~V&w",
    "x~U&x~|)t~W&y~=/nx~c/ox~|/p~l&yX~W&zx~V&|~|)z~D'!^(&d:~F,w~/05~Q,v~.YB~|,u~Y&v~;,t~:&v~F,s~/&v~|,r~[&vX~V&wx~U&x~|)t~F&y~M2n~/,S~T)v~|2n~m&yX~W&zx~V&|~|)z~EQH^-",
    ",nK~CQI~/*>~SQJ^&%iJ~|'!~?'!^-%0w^9%/]~?!D2~?!D3~:!D~&hP~:!D~%j4~9!C^4(0yMISC^.&&|USE_XOPEN^-'-Vsigngam;^E'G3^+,Cg^<,Cf~A!H64~E!oX~D!o~C!H^(,Cd^S,Cbm^*,C_^0&K,#",
    "^>,s%^?%Mk~'%[Distinct~*-U without d~(!>~+z6 not ~)&8^6-U(MATH_TG(TG_ARG, FUNC, ARGS^+)mM^()f/~&!I^3*mj ?~%!_~%.d~%!d :~&!4~%!p`#^,)yu~4&_~*!BGENERIC_SELEC^&'2e",
    "^>*GW~6pW~1&_^&)dN~*&Y~)DW:~/&5^7-Ej~7!n`^;-GZ~=%z~'CD^?*Ee`^.,=*~)%U64X~3&I64x~*&Jl~*&J~*&K~W!r~%4L~+!u~(&o~;'N~/%%`^5,/L~<+T~'/+^+,UW~'+U,~%+p^(*df~%+W~1)C~,!",
    "F~-): (~.%3~(!I^),V(~),8~-!k~+./~1(4~6%:64X~8%;~)/D~3(4)^.)nl~9+%`^+,QjNon-^.&dlN but no~)'i^,,QV~I(U^+&r1^+(5Bhoose_expr\t~,!F^J*PA~()E~&)8^&,Zp~&'>~1)C~,%/~D%",
    "S~T%T~&)R),~)!j~-**~-%,~E%Q~T%R~++0~%%W\t~0+4~(%1\t~2*W^-',/^-)cA~?)Y~G5f~'&T~05l~)&p: ~;!j^++Ee~*!k~(!f~(!g~.&k^-&wl^4&Fm^0&cDNAN^/&]ONAN^,&c5NAN^+&_1FINITE^1&",
    "_,~'!:^-&c&~&!7~)!c^3&ao^0&bf^-&aJSUB~&B;~/!Y~*!;^+&bA~)!8~)!f~5!c~'!8^+&b&~'CK  $;^,&zi((^1(OZ4^0)EH^/'N_^**ij^+&+Lglibc_clang_prereq (2,8^/+.b~%!*&& (~+%-OPTI",
    "MIZE_SIZE__~.DIcplusplus)~)&0~(&efp^(*ph(x^,(Ef~*!; (~')V~-)&~.%_~)'B,~.(1~))% x^3&l%~0%L~'-s ((x), _~+%T, (x^-*eG^4'8Q6,0)~:'r3,^-'8qsignbit~.&t~'!8 (~'&)~-HT~",
    ")'p`~1'p~<!tl~,!u~1*R0~9%g~0'4~/%&~*'9~.('~=!k~1!c~,'y~S,G^-%:k~8,>~+%oisfinite~.'P~(!9~)'P~-&L~.!X~1*N~%!?~|&L~D&Lnormal~0&L~&!9~8&L~*!X(~,.Ax~%5[~).!~,&K~|&L~",
    "4&Lan~1&Ian~9&F~(!R~0(n~%!>~8/;~6K:^4(d|7,0^,'ve~9&h~/!A~)/0~6!c~&'*_~0/Lisinf(x~(%A~J=Fx^3,dc^&*MG~%!y~%=)(x) :~-()inf~%.m~*/N~a)e~;)g3,7)~4&f~8%a~4)l~)!W~2)li",
    "nf~3)l~'!a~%!SERRNO\t1~2!9EXCEPT\t2~+:4~&=tFAST~&%:_~+%Wmath_errhandling\t0~253NO_~*%D~>!e(~.%W~3&w~:!WNO | ~3!g^J%HI^0'-6~-bViscanonical^''bi ^('zg~+7p~,(wsign",
    "aling~8)%~)!E~.6v^-'qO\"C++\" @`inl~%%%nt~,%)^*&UWval) @ return~.%-~%,Gval); $~9!o^)&TZ~;!p~6!o`~-!F^.&USval)`@`^?-Rd ~>%=~)Sn~6!Ll~.!M~%)i$~3P<128_UNLIKE_LDBL`",
    "`~9'3~*]m~>(+^''K%~(':~-%N~1.Rissub~A7N~)BD)~;+8~('v~.1V~,W8iszero~:%6ZERO)~4Wu~+!_(~-41)~&!(== 0~-X(~%!h~/,.~:%v~-*dzero~.,D`@~,)f~*&5~),E~+&:;`$~4!v~0+R~5!w~K",
    "!v~8,R~I,S~?%D~)_T~5!Wl~:!X~*,l~M,m~)&S~0,h~9(M~+,i~/'U~2aptemplate <~%!f __T> ~'%Mbool~*%N_T~5%Hval~%+8~'%.~0.'^5'eb~'ol~+8ZX~%'.\t3.40282347e+38F~+lY~Ops~*%)_",
    "E\t\t2.7182818284590452354~,!HLOG2E\t1.442695040888963407~0!K10E\t0.43429448190325182765~-!MN2\t\t0.69314718055994530942~.!K10\t\t2.3025850929940456840~-!LPI\t\t",
    "3.14159265358979323846~.!J_2\t\t1.57079632679489661923~/!L4\t\t0.7853981633974483096~-%F1~%%H0.318309886183790671~.'h2~'!L63661977236758134308~.!LSQRTPI\t1.1283",
    "7916709551257390~,!OSQRT2\t1.4142135623730950488~1!L1_2\t0.70710678118654752440~7ZO^-*E=M_Ef~7*Mf~1*Nf~6*Of~2*Pf~7*Q~.!ON2f~8*S~/!M10f~7*T~-!MPIf~8*V~/!L_2f~7*W",
    "~0!M4f~7*Xf~0*Yf~7*Yf~0*Zf~7*Zf~4*[f~7*]f~1*_f~7*af~3*bf~7*cf^/&bV~:*fl~6*f360287471352662498L~1*wl~5*w359924681001892137L~2+0l~7+01128918916605082~.!bN2l~7+A17",
    "23212145817656~/&)N10l~6+Q1799145468436420~.!_PIl~8+d2643383279502884~/!]_2l~7+t1321691639751442~0!_4l~6,,15660845819875721L~0,<l~6,<3776752674502872~.&&2~'!_~3",
    ",M7553505349005744~.'D~(,_l~5,_89615890312154517~.&g~%,pl~7,p1688724209698079L~3-(l~7-(0844362104849039L^?)9H~.:e~14716\t\t__f16 (~G-V)~24R16~(!j~G-b)~34o~*!k~G",
    "-k)~050~,!h~E-s)~15I~*!i~G.!)~/5e~*!g~G.,)~16%~,'t~E.5~0!i4~-'-~E.>)~16X~,!i~E.H)~16t~-(a~D.Q)~575~,'3~E.Z)~27O~-+s~D.f)~47k~-(%~D.o^A)CY~?.o32~%.o32~].o32~(!j~",
    "[.o~*!k~X.o~,!h~W.o~*!i~W.o~*!g~Y.o~,'t~W.o~,'-~W.o~,!i~W.o~-(a~Z.o~,'3~X.o~-+s~Y.o~-(%~a.o^&%T]~?.o64~%.o64~].o64~(!j~[.o~*!k~X.o~,!h~W.o~*!i~W.o~*!g~Y.o~,'t~W",
    ".o~,'-~W.o~,!i~W.o~-(a~Z.o~,'3~X.o~-+s~Y.o~-(%~a.o~'zM~AEU28~%;(28~_EV~+!l~]EX~+!m~YEZ~-!j~XE]~-'9~VEa~+!i~ZEc~-(&~XEe~-'5~XEg~-!k~XEi~.(m~[Ek~-';~YEm~.,/~ZEo~.",
    "(/~cEqX~FErx~&;Cx~aEs~*!l~_Eu~*!m~ZEw~,!j~YEy~,'9~WE|~*!i~[F%~,(&~YF'~,'5~YF)~,!k~YF+~-(m~]F-~,';~ZF/~-,/~[F1~-(/~cF3~E/164~%%B64~_/1~,!l~_F7~*!m~ZF9~,!j~YF;~,'",
    "9~WF=~*!i~[F?~,(&~YFB~,'5~YFD~,!k~YFF~-(m~]FH~,';~ZFJ~-,/~[FL~-(/~dFN~9/2^'%dfM_* values needed f^)%rm128x\"^=(lH#^>.hF^-%;ggreater^')vK^,%BF~-!=~4!Xequal~:!_~+",
    "!C~-!eless~'!Z~-![~*!;~1!S~8%9~/!?~1!]~:&Y~1!B~-!cunordered~3!a~/!?^4%Eg~-%( ^4+_y@^-.]vx) __x = (x);~-!=y) __y = (y);^),K.!~+%V (^&'1/_y)^&%rZx > __y; $)~A)5~|",
    "%n~<%n=~6%o~**'~|%g~;%g<~:%f~|'T~H%k~;'T~|+9~I%n!~+%n~<-l~I%mu~9%mv~0%m__u~&%Ov^'*GQ~'!2u^&%QGv~'!A)~('c^Q(y9^**lk~%!O^/(Z[__ == 2~&%;~2!?> ^3&Ok~&!HFMT^(*7C((x",
    ") +~%&_+ 0.0L^+%c|~5%?1~:%?^3&tL~B%?~A%>0~8%>^2(YE~F%?f~33_~B!b^2%_U^5%Z2^&'It~*!3< 201103L^/%X0~%9L_~..!eqsig~+,,^,%R*~0%s ~&!L^&%R>~%!_,^'%RP(y)^0%RB^3%RF^(%D",
    ";<typename> struct~*!x~%-*;`~*!O~7!G<float>`@`  static^')K,call^-(.z~(!.y) throw ()^)%u;^+%OT~%%*f~+/r;`  $`$~E%]^&%JC~9%_^,(/'^+(.z~C%b~W%a^+%L-~9%f^B(7-~.%p# ",
    "^*%Qd^6%Lo~2&8l~-&9^*%UI~?&f^)%Ir~(&o^;/ar~,C&13, 0)~C'F^(&4d~9'C~(!E~&'?~+!1~Z*p^0.a7^5);i~[&H64~?&H64~,&H~%!1~Y+V~<&G^/%QP^8'lO~5&k)``~I&n128~?&o^&%RZ~)&p~&!2",
    "~3,W~?&<~6)d^'%S?~,,3~:,a~1-3~.,c~<'y^*)?L~_,mx~B,nx~.,ox~|*I^*)AT~_,p~A&K64~-&K~&!2~D*%^0&?D~H)L~8)z~6*Q~6*%~19T _T1, ~+!12>^.%[Q~((TT1~'&kT~02)@~)(U~*<X>=~(<Y",
    "`  ^)))gecl^&,1!~2<.~)&:) _T3~,5R~(!e^*%ee~G!e~''(~0'V~')fT3>::~))O~*'g$`^,%iB^5)Xv^6)Xwx86_64-linux-gnu/^1)r4^7)Y;~4!!^4*fR~'WfNever^&,/M~1%1> ^&)faly; ^30+r i",
    "nstead.~-X2^.'fS^D)ux~*!5^)*ct^-&Of^*&T: (c^&,0R(~3!l_z));~0!Rsin~L!Rta~>!R~.!S~N%Z~N%Y~B%X~4'=h~O'>h~O'?h~O'Ah~N'Bh~N'Ch~O'Dexp~L&7log~=!R^3)iF~0!g10~<!i~+,a~-",
    "!_pow~7![x,~4-g_y~3&9^&*tO~F'F^0(x;cabs~E'P~2!]rg~L(3onj~L!Rproj~Y&Limag~V&Mreal~<!_~E57~%Njn-common~65:~)3fBITS^(&QbCOMMON^,*)7~5!B^+(obfeature^4(oxlong-~&&A^-",
    "*(s^/0=3^(%XW0~5!<32^-(qy~-IP~6!<32X~7!=~%ne0~/'.~.!L^1(J+~.%x~>!S32~2&A^1(>I~?!F32X~C!l~B!G~%&i~0&z~;(R~/K(^9*5L^,/;S~%E4LDBL_MANT_DIG__ != 113^-+P5^.&;' 0)^8&",
    ":Y~+;;^9&cV1^2&S?~8!O0~2<Z_ASSEMBLER^'&;V^7+G_^&,Mw~3&5||^,)OG~*Co^3&=n~)NK^./Z,16^&&,5^**xkx##f^5&,h~)!Rx^(*Qf^1(RP^6+DE~p&:~.%c32~(%c~7&,~*!E~&%[~A&,~&gh~t&,^",
    "A/g9~+&,64~'&,l^8&iB~(!G^A&hk~*!r^''<O~C),X~|)-~)(dx~)&5~5)+x~*),x~G)-~y&-^N&n|f64x~D)2~%!H^(%A&x)~D)<~)'4^''*|~A'4^)(6'~s'5~'Lt~)Z>X^*&wC^(&kHconstant^'(b,\"~8",
    "0u28~)&Q^(')S~/&R~|39~-&Q~)RR~'Me~)l(c~%!,~%:Q^0(tzmod~%!.__HC__)^((|R~)&XC~*;7~(!m~6',~*!M^./O[~|43~O/)^(*SU~/'C~<&F~,!Q^,'Ns~|4M~m4M^(*R.~*&9^/(s3~4/P~2!Y~,!T",
    "~:/V~2!]^,'<b~|5'~R)yX~4&S~:)|X~2*!~|5E~v5E~((hX~V**X ^.*dM~F*'~1'W~|5j~q5j~&&+type\"~=2[~%I2~/2_~L5t~|5u~(5lF~E5jF~*5j~-m|~5%h~.',^3*8k(~.GP^8*=R~4!minf~<!hinf",
    "~:!cnan~3I%~-!D^(&YC~6!es~A!fs~)!g~)'N~;8A~|)Y~-)Y32~j)432()^=*B%~6)*~0![^+*5U~7(x~&K?^1*4u~>(n~4!Ysf~K(d64~*Vv~>9k~(41~u)4^-%-5~'3:~,u-~=%I~/4r^3*<S~6)=~*.E~6)",
    ">~0!]inf~<!Wnan~'M]~.(bl~*)?~7)A~4!Zs~+![~*'+^(,Ht~z(Z~|(U~9(U~S(T~T(S~W(R~5(Q~C2eX~|2f~/(s32x~l2hx~?(r~72hx~:(r~72hx~<(r~82hx~<(r~D2hX^7%-C~-CL~|.+~62ex~o.1x~Y",
    "2gx~T2hx~W2ix~|2j~QU4^*%8%~|(_^=*T&~N(c~?![~9(f~(]Y~T(i~.!b~L3*~&p0~|K/~,K/x~2K/~*K'~eH<28x~,GR28x~THA~>!l~CHE~'av~8!h~EHI~C!j~;3z~.!+^K%!P^5%!I^5%!H^7%!A^9%!9~",
    ")!r~,*r~&%[__^.'Nb?^3+t63^./rY:~,!mGNU__~5!Z5^&'3j~0!:4^-*H&~/-3~>w!128~+vr^5%on~1!_~1yc~9%2~2!N~,%;^7%'(X 1`~<!C~,9d 1~;y'~40F`~|y'~*kT~'kSq~:ky~+kx~GW&~w&2~Bk",
    "z28~=W4T~<k|~%!c~)!o~?ZC~3ZB~J'=~|Ezf^(0NO~*;,128~,F&~b5d~.4r~<5b^,'p;~R%C^(--?~%:-~2!:q~6!Zfabs~/!Vfabsq~=7F~:&N~E7D~/6T~S7B~>!h~17?~:'y6~:'y^''P+~''C~+!1~=8E^",
    "4+%+^)%8U>~N8ilibm-simd-decl-stubs~>8wM^'+*s ^-%KB^1+*2~3%%^+%KP\\` ^01S[^3%KO~7:ILIBM^**=__STUBS~1:W~6!I ^-+,r^**B/cos~8!;f~8!<l~9!V^-%9<~.!>32~9!>64~:!x^-)t(~",
    "0!yx~;!zx~<!|x~6'4sin~8!;f~8!<l~9!V~7'4sin~8'4sin~8'4~%!x~7'4~&!yx~;!zx~<!|~:'4~8*I~&!>f~;!?l~<!]~:'A~;*U~'!B~:'G~<*[~)%*x~>%+x~?%,~7'Slog~8!;f~8!<l~9!V~7'Glog~",
    "8'Dlog~8'A~%!x~7'=~&!yx~;!zx~<!|~7'4exp~8!;f~8!<l~9!V~7'4exp~8'4exp~8'4~%!x~7'4~&!yx~;!zx~<!|~7'4pow~8!;f~8!<l~9!V~7'4pow~8'4pow~8'4~%!x~7'4~&!yx~;!zx~<!|~7'4a~",
    "81/a~91-a~91+a~;1)a~;1'a~;1%a~<0|a~<0ya~<0wa~>0uatan~9!<f~9!=l~:!X~8'>ta~97f~%!?~8'>~%!|~8'>~&%!x~<%%x~=%&~8'>~8;%a~9;&a~9;'a~;;(a~;;)a~;;*a~<;+a~<;,a~<;-a~>;.h",
    "ypot~:!=f~:!>l~;!Z~7'C~&!A~7'D~&!A~7'E~'%&~7'F~(%'x~=%(x~>%)~:7k~96U2~97m2~97n2~;7o2~;7p2~;7q2~<7r2~<7s2~<7t2~>'>10~:!=~9'A10l~;!Z~:'C10~;'D10~;'E^&&t!~=%'x~=%(",
    "x~>%)x~9Leh~9!<~9Lgh~9Lhh~;Lih~;Ljh~;Lkh~<Llh~<Lmh~<Lnh~>*gm1~:!=~9*gm1l~;!Z~:*gm1~;*gm1~;*gm1~<*g~%%'x~=%(x~>%)~:M+h~9!<~9M'h~9M%h~;L|h~;Lyh~;Lwh~<Luh~<Lsh~<Lq",
    "~<*gcbrt~9!<f~9!=l~:!X~8.*br~986~%!?~8.*~%!|~8.*~&%!x~<%%x~=%&~;C8~:Ay2~:C:2~:C;2~<C<2~<C=2~<C>2~=C?2~=CA2~=CB2~>SX~78;~%!=~9S]~88;~&!Z~:Sc~:8;~&!A~:Sg~;8;~(%'x",
    "~=%(x~>%)~:'I~9&+2~9'G2~9'F2~;'E2~;'D2~;'C2~<'B2~<'A2~<'?~A*gp~:!=~:*gp~:*gp~<*gp~<*gp~<*gp~=*gp~=*gp~=*gp~?1Zh~:!=~:1Zh~:1Zh~<1Zh~<1Zh~<1Zh~=1Zh~=1Zh~=1Zh~?W[h",
    "~:!=~:W_h~:Wah~<Wbh~<Wch~<Wdh~=Weh~=Wfh~=Wg~=CWr~7C9rf~9!<l~9!V~8COrf~9CMrf~9CKrf~:CI~%!yx~;!zx~<!|~7'4~9.)~:.(~:.'~<.&~<.%~<.!~=-|~=-z~=-y~A-x~9Fba~:Fca~:Fda~<",
    "Fea~<Ffa~<Fga~=Fha~=Fia~=Fja~?Fkerfc~9!<~9-zc~9-|c~;.!c~;.%c~;.&c~<.'c~<.(c~<.)c~>.*~8!;~9.(~9.'~;.&~;.%~;.!~<-|~<-z~<-y~&'4^L%-R^-,/f^d%-I~-!t^S%-?#^F%.C^0(9L^",
    "(%D8^.'4Z^.(OT~,!UOPENMP &&~)!.^&&[?307^-*u+~+(,~&%2 _Pragma (\"omp declare simd notinbranch\")^7(cm6,0)~A%1^1%=.simd__ (\"~-%1^,&ye^*(RL~0!v`^+)4X~+PTos~7%Ucos",
    "~M!mf~:!n~K%a~%ok~5!nsin~M!mf~:!n~N%a~:'G~&!A~P!sf~=!t~K%mlog~7!qlog~M!mf~:!n~K%aexp~7!nexp~M!mf~:!n~K%apow~7!npow~M!mf~:!n~K%aa~:*qa~M*oa~;*ma~N*k^&%%L~6!ptan~",
    "N!of~;!p~L%e~:0*a~M0+a~;0,a~N0-~'z=~5!q~%!?~O!qf~<!r~N.D2~:-R2~N!o~;.G2~N%e10~:!q10~O!q~;%h10~N8kh~:7yh~N!o~;8nh~N'Pm1~:&Ym1~O!q~;'Pm1~N8wh~:8!h~N!o~;8q~L'P~&pV",
    "~6(Ebrt~N!of~;!p~O3i2~;2u2~O!q~<3l2~N<D~9.T~%!?~O!q~;<J~M.T~&kb~8!q2~N!o~;%f~P'Pp~;&Yp~O!q~<'Pp~O++h~;*4h~O!q~<++h~O>Fh~;=Rh~O!q~<>I~M3ur~93!r~N!m~;!n~K!o~;)8~N",
    ")7~<)6~P)5~;5Ua~N5Va~<5Wa~O5X~&_F~8(Dc~N!o~;)8c~N)9~:(D~M!m~;)6~5%a^0'WU~IZG^8*wQ~3ZV^+'%u^&*tg (int^/)AL^,'&&^&(s0ue),^+)B9^E+em~;%:^()=e~7%7~'!C~G%4~:%5^&)1j~",
    "7%3~%!A^C+[W~;'W^&)=U~8'S~%!B~_%/^&)9q~9&9nan~b%-^&'Wm~/%/^,'0L^&+bJ^('Y!~A!v^*)1+~9&.~)!G~E)Y~N-*^N'>U~Tfi^<'>X^>%p)^+)psVEC (acos~1(I^/'8&~'!Nsin~H!Nta~L!N2~0",
    "!Oy~.)wx^0'3o~&!b~J&3~J&2~9&1~6%Nh~J%Oh~J%P~7!N^2';(~+-(~%!cvoid,~&cQ,,`\t\t~:-x*__sin~0!6cosx^,';R^2)*?XOPEN_EXTENDED^2)*J^()ZK~4+8h~K+9h~K*h~6!O^5'=o~&!Yexp~7",
    ")d^,';(fr~4!L^&-5=*__exponent~2!_ld~:!_~:!]~&%nlog~B%n~)!N10~D&Cmodf~=41*__iptr)) __nonnull ((2~(+I^I/EX~3(8~7%s~v+3~%VC~L'c~E**logb~A&:^2)fM~3%m2~K%l2~A,N~1!Yp",
    "ow~B9n~1&Wsqrt~91A~4(j~K(a~%e,~E%e~v*0cb~7&R~6'kX (ceil~2!V, ~6>I~'!Yfabs~S!Yloor~O!Z (fmod~F)_^4/7mif ((^<)Vy^')T;^4'xr~D!!~.!lM^5+F0==^&0lb~G!q^&&<CM^6+t9~7C,",
    "~gGE^10Ww~7%R~6%Q~qGk~&)ydrem~G/[~./]ignificand~6-4^3)US~<2KX (^(&>-~DH3~/('~G%2 (~'JI~%!b char *__tagb~-/>^:)E;(~427^2/;v~%!;2K)~|-G~|-G~D-G~8-F~eNQ^4(3/~O(W~7",
    "'%~-<p (j~.<i));~.!C1~>!C~%&e~&OF~8!Hy~>%1y~>%1y~7%1~;+w~P9terf~;%R~)!Hc~=%z^&,6e~1!G~J.gt~B!g~p._~A,T~&%g~7%f^<)RT~%9:~0Bj~&!o_r~,!q~)Hp^'*Fhp~E)T~D>.~-%Jrint~",
    "DDc^),Dg~FA) ^5.VR99~/(I^,+8y~<0y~0%Y^',?d~2%Z^0(2t~1:%^D(?a~53M~4*&^(/Wh~AOb~&!Nup~>90~.(l^(,Aq~GAM ~A-m^&/SY~9OIn~4%ZDECL~'59~EJh~k(.~&%F~%)H~%2]l~dL8~''!ln~8",
    "*[~+'*~1,|^'/ky~8Z'~-=|rou~4>t~2G8~.![trunc~F![~0*Nquo~A*K~)0yquo~(!m~7(=l~90<^-(L0~2!d~*!i~:!j~:%E~6'_~O%F~9!k~0KVdim~J.,~91q~24;^<-:6~0Mimax~REM~1!ki~TF<~51Hf",
    "~/8P~5*r~,!2z~z0)~,-veven~L-z~&*?__intmax_t^(/UI~93!~&*[^''p7unsigned~'!?width~5%.u~*%/u~M%0~=%2~?&>x~H%2~K%1~2&B~I%3~<%5~+I31~'E*^)*)]iz~/Q+*__cx,^&'cz~.dS~179",
    "^?-r-)\t^-*d+(~7+;~&!J\t^R-FS~4/Cmag~h/F~U!n^C/YN~1&)imum~h&*~j!o^*/XN~l%g~j!s^*/Ud~m%k~i!s^./WQ~p%o~V!w~D60EXT~IC.~)0_totalor~'F:~40J~'1f~3!>y)^3%(N^*.,E~=%=~'",
    "(z~;%A  ~Z%D~'Ozetpayload~8%9~93zs~-!b~/%r~-)(~'!K~D!q^1%-O~=!t~-4o~KSe~*Q1^)1Rx~:Z%\t ~-!J~6TF8^&1Or~I_)~+IG~?,jn~+&f"]

end CInspect.Includes
